import OpticalPathPlanner.DomainExposure

/-!
# Passes over disjoint candidates

A request for several disjoint candidates runs one pass for each, and every
pass excludes what the plans before it recorded.  The candidates of such a run
form a chain: each was found under the exclusions of those before it.
-/

namespace OpticalPathPlanner

open SortedRanges Traced

variable {K E : Type} [Field K] [LinearOrder K]

/-! ### Chains of candidates -/

/-- What a list of accepted plans excludes. -/
def exclusionsOf (kind : Disjointness) (plans : List (PlanArtifact K)) :
    Exclusions :=
  plans.foldl (fun exclusions plan => extendExclusions plan kind exclusions) {}

omit [Field K] [LinearOrder K] in
theorem exclusionsOf_concat (kind : Disjointness)
    (plans : List (PlanArtifact K)) (plan : PlanArtifact K) :
    exclusionsOf kind (plans ++ [plan]) =
      extendExclusions plan kind (exclusionsOf kind plans) := by
  simp [exclusionsOf]

section Exclusions

omit [Field K] [LinearOrder K]

variable {plans : List (PlanArtifact K)} {plan : PlanArtifact K}

/-- What an accepted plan adds to the exclusions stays excluded. -/
theorem mem_exclusionsOf {kind : Disjointness} {Excluded : Type}
    {excluded : Exclusions → List Excluded} {names : PlanArtifact K → List Excluded}
    (extends_ : ∀ (last : PlanArtifact K) (earlier : Exclusions),
      excluded (extendExclusions last kind earlier) = excluded earlier ++ names last)
    (member : plan ∈ plans) {id : Excluded} (named : id ∈ names plan) :
    id ∈ excluded (exclusionsOf kind plans) := by
  induction plans using List.reverseRecOn with
  | nil => cases member
  | append_singleton plans last ih =>
      rw [exclusionsOf_concat, extends_]
      rcases List.mem_append.mp member with old | new
      · exact List.mem_append_left _ (ih old)
      · rw [← List.mem_singleton.mp new]
        exact List.mem_append_right _ named

/-- An accepted plan excludes the nodes its steps name. -/
theorem mem_exclusionsOf_nodes (member : plan ∈ plans) {id : NodeId}
    (named : id ∈ plan.steps.flatMap stepNodes) :
    id ∈ (exclusionsOf .node plans).nodes :=
  mem_exclusionsOf (fun _ _ => rfl) member named

/-- An accepted plan excludes the spans its steps name. -/
theorem mem_exclusionsOf_spans (member : plan ∈ plans) {id : SpanId}
    (named : id ∈ plan.steps.flatMap stepSpans) :
    id ∈ (exclusionsOf .span plans).spans :=
  mem_exclusionsOf (fun _ _ => rfl) member named

/-- An accepted plan excludes the domains of its exposure. -/
theorem mem_exclusionsOf_domains (member : plan ∈ plans)
    {exposure : FailureDomainExposure}
    (reported : exposure ∈ plan.failureDomainExposure) :
    exposure.id ∈ (exclusionsOf .failureDomain plans).domains :=
  mem_exclusionsOf (fun _ _ => rfl) member (List.mem_map_of_mem reported)

end Exclusions

section Passes

variable (runtime : Runtime K) (options : PlannerOptions)
  (driver : SearchDriver E) (snapshot : TopologySnapshot K)
  (request : PlanningRequest K)

/-- A pass under the exclusions of earlier plans found a path that builds into
the plan. -/
def FoundAfter (front : List (PlanArtifact K)) (plan : PlanArtifact K) : Prop :=
  ∃ env, ∃ path ∈ (passSearch runtime options driver snapshot request
      (exclusionsOf request.disjointness front) env).1.paths,
    BuildsInto (searchContext runtime snapshot request) request
      (runtime.computeRequestDigest request) path plan

/-- Every plan was found under the exclusions of those before it. -/
def Chained (plans : List (PlanArtifact K)) : Prop :=
  ∀ front plan back, plans = front ++ plan :: back →
    FoundAfter runtime options driver snapshot request front plan

/-- What the passes of a request for disjoint candidates keep. -/
structure PassChained (state : PassState K E) : Prop where
  candidates : state.result.candidates = []
  digest : state.result.requestDigest = runtime.computeRequestDigest request
  exclusions : state.exclusions =
    exclusionsOf request.disjointness state.accepted
  chained : Chained runtime options driver snapshot request state.accepted

/-- The same of a pass that may have ended. -/
def ProgressChained : PassProgress K E → Prop
  | .next state => PassChained runtime options driver snapshot request state
  | .stop state => PassChained runtime options driver snapshot request state
  | .done result _ => result.candidates = []

variable {runtime options driver snapshot request}

theorem chained_nil : Chained runtime options driver snapshot request [] := by
  intro front plan back split
  simp at split

omit [Field K] [LinearOrder K] in
/-- A list that gets longer is only split in one more place. -/
theorem forall_splits_concat
    {follows : List (PlanArtifact K) → PlanArtifact K → Prop}
    {plans : List (PlanArtifact K)} {last : PlanArtifact K}
    (chained : ∀ front plan back, plans = front ++ plan :: back →
      follows front plan) (found : follows plans last) :
    ∀ front plan back, plans ++ [last] = front ++ plan :: back →
      follows front plan := by
  intro front plan back split
  rcases List.eq_nil_or_concat back with rfl | ⟨older, final, rfl⟩
  · obtain ⟨rfl, same⟩ := List.append_inj' split rfl
    cases same
    exact found
  · have whole : front ++ plan :: (older ++ [final]) =
        (front ++ plan :: older) ++ [final] := by simp
    rw [List.concat_eq_append, whole] at split
    exact chained front plan older (List.append_inj' split rfl).1

theorem Chained.concat {plans : List (PlanArtifact K)} {last : PlanArtifact K}
    (chained : Chained runtime options driver snapshot request plans)
    (found : FoundAfter runtime options driver snapshot request plans last) :
    Chained runtime options driver snapshot request (plans ++ [last]) :=
  forall_splits_concat chained found

theorem PassChained.withoutPlan {search : SearchOutcome} {unproven : Bool}
    {state : PassState K E}
    (chained : PassChained runtime options driver snapshot request state) :
    PassChained runtime options driver snapshot request
      (state.withoutPlan snapshot search unproven) := by
  unfold PassState.withoutPlan
  split_ifs
  all_goals exact ⟨chained.candidates, chained.digest, chained.exclusions,
    chained.chained⟩

/-- A pass adds a plan it found under the exclusions so far, or none. -/
theorem afterSearch_chained (iterative : request.iterative = true) {env : E}
    {search : SearchOutcome} {state : PassState K E}
    (searched : (passSearch runtime options driver snapshot request
      state.exclusions env).1 = search)
    (chained : PassChained runtime options driver snapshot request state) :
    ProgressChained runtime options driver snapshot request
      (afterSearch runtime snapshot request search state) := by
  refine afterSearch_elim ?failed ?refused ?unplanned ?planned
  case failed => exact fun _ => chained.candidates
  case refused => exact fun _ _ _ => chained.candidates
  case unplanned => exact fun _ _ _ _ _ => chained.withoutPlan
  case planned =>
    intro built unproven best others _ succeeded ordered
    have isBuilt : best ∈ built :=
      (runtime.routine.perm planLess built).mem_iff.mp
        (ordered ▸ List.mem_cons_self ..)
    have found : FoundAfter runtime options driver snapshot request
        state.accepted best := by
      rcases (mem_of_buildPaths succeeded).2 best isBuilt with
        impossible | ⟨path, returned, builds⟩
      · cases impossible
      · rw [chained.digest] at builds
        rw [← searched, chained.exclusions] at returned
        exact ⟨env, path, returned, builds⟩
    rw [if_pos iterative]
    refine ⟨chained.candidates, chained.digest, ?_, chained.chained.concat found⟩
    simp only
    rw [exclusionsOf_concat, chained.exclusions]

theorem runPass_chained (iterative : request.iterative = true) (pass : Nat)
    {state : PassState K E}
    (chained : PassChained runtime options driver snapshot request state) :
    ProgressChained runtime options driver snapshot request
      (runPass runtime options driver snapshot request pass state) := by
  cases valid : request.iterative &&
      (request.working runtime state.exclusions).validate.failed with
  | true =>
      unfold runPass
      simp only [valid, if_true]
      exact ⟨chained.candidates, chained.digest, chained.exclusions,
        chained.chained⟩
  | false =>
      rw [runPass_eq pass valid]
      exact afterSearch_chained iterative rfl
        ⟨chained.candidates, chained.digest, chained.exclusions,
          chained.chained⟩

theorem runPasses_chained (iterative : request.iterative = true)
    (remaining pass : Nat) {state : PassState K E}
    (chained : PassChained runtime options driver snapshot request state) :
    ProgressChained runtime options driver snapshot request
      (runPasses runtime options driver snapshot request remaining pass
        state) := by
  induction remaining generalizing pass state with
  | zero => exact chained
  | succ remaining ih =>
      unfold runPasses
      have after := runPass_chained iterative pass chained
      generalize runPass runtime options driver snapshot request pass state =
        progress at after ⊢
      cases progress with
      | next next => exact ih (pass + 1) after
      | stop next => exact after
      | done result env => exact after

omit [Field K] [LinearOrder K] in
theorem classify_candidates (state : PassState K E) :
    (classify snapshot request state).candidates = state.accepted := by
  unfold classify
  split_ifs <;> rfl

/-- The candidates of a request for several disjoint ones form a chain. -/
theorem candidates_chained (iterative : request.iterative = true) (env : E) :
    Chained runtime options driver snapshot request
      (plan runtime options driver snapshot request env).1.candidates := by
  unfold plan
  split
  · exact chained_nil
  · have after : ProgressChained runtime options driver snapshot request
        (runPasses runtime options driver snapshot request
          (if request.iterative then request.maxCandidates else 1) 0
          (startPasses runtime snapshot request env)) :=
      runPasses_chained iterative _ _ ⟨rfl, rfl, rfl, chained_nil⟩
    generalize runPasses runtime options driver snapshot request _ _ _ =
      progress at after ⊢
    cases progress with
    | next state =>
        change Chained runtime options driver snapshot request
          (classify snapshot request state).candidates
        rw [classify_candidates]
        exact after.chained
    | stop state =>
        change Chained runtime options driver snapshot request
          (classify snapshot request state).candidates
        rw [classify_candidates]
        exact after.chained
    | done result final =>
        change Chained runtime options driver snapshot request result.candidates
        rw [show result.candidates = [] from after]
        exact chained_nil

end Passes

end OpticalPathPlanner
