import OpticalPathPlanner.ResultRoundTrip
import OpticalPathPlanner.HardConstraints

/-!
# Results of the planner are read back

Every result of the planner is sealed, so it is read back from its text
exactly when the lines of the text keep the limits of the tokenizer and every
witness names a resource.  The planner writes one witness that may not: a
required evidence source with an empty identifier, which no snapshot declares.
-/

namespace OpticalPathPlanner

section Planned

variable {K E : Type} [Field K] [LinearOrder K] {runtime : Runtime K}
  {options : PlannerOptions} {driver : SearchDriver E}
  {snapshot : TopologySnapshot K} {request : PlanningRequest K}

/-- A result that was brought into its canonical order and sealed. -/
def Finalised (runtime : Runtime K) (result : PlanningResult K) : Prop :=
  ∃ draft, result = finaliseResult runtime draft

theorem Finalised.sealed_ {result : PlanningResult K}
    (finalised : Finalised runtime result) :
    (runtime.sealResult result).resultDigest = result.resultDigest := by
  obtain ⟨draft, rfl⟩ := finalised
  rfl

theorem finalised_of_afterSearch {search : SearchOutcome}
    {state : PassState K E} {result : PlanningResult K} {env : E}
    (ended : afterSearch runtime snapshot request search state =
      .done result env) : Finalised runtime result := by
  revert ended
  refine afterSearch_elim ?failed ?refused ?unplanned ?planned
  case failed =>
    rintro _ ⟨⟩
    exact ⟨_, rfl⟩
  case refused =>
    rintro _ _ _ ⟨⟩
    exact ⟨_, rfl⟩
  case unplanned =>
    intro _ _ _ _ _ ended
    cases ended
  case planned =>
    intro _ _ _ _ _ _ _ ended
    split_ifs at ended

theorem finalised_of_runPass {pass : Nat} {state : PassState K E}
    {result : PlanningResult K} {env : E}
    (ended : runPass runtime options driver snapshot request pass state =
      .done result env) : Finalised runtime result := by
  unfold runPass at ended
  simp only at ended
  by_cases refused : (request.iterative &&
      (request.working runtime state.exclusions).validate.failed) = true
  · rw [if_pos refused] at ended
    cases ended
  · rw [if_neg refused] at ended
    exact finalised_of_afterSearch ended

theorem finalised_of_runPasses {remaining pass : Nat} {state : PassState K E}
    {result : PlanningResult K} {env : E}
    (ended : runPasses runtime options driver snapshot request remaining pass
      state = .done result env) : Finalised runtime result := by
  induction remaining generalizing pass state with
  | zero => cases ended
  | succ remaining ih =>
      rw [runPasses] at ended
      cases ran : runPass runtime options driver snapshot request pass state with
      | next next =>
          rw [ran] at ended
          exact ih ended
      | stop stopped =>
          rw [ran] at ended
          cases ended
      | done other final =>
          rw [ran] at ended
          cases ended
          exact finalised_of_runPass ran

/-- Every result of the planner is finalised. -/
theorem finalised_of_plan (env : E) :
    Finalised runtime
      (plan runtime options driver snapshot request env).1 := by
  unfold plan
  cases earlyOutcome snapshot request with
  | some early => exact ⟨_, rfl⟩
  | none =>
      simp only
      cases ran : runPasses runtime options driver snapshot request
          (if request.iterative then request.maxCandidates else 1) 0
          (startPasses runtime snapshot request env) with
      | next state => exact ⟨_, rfl⟩
      | stop state => exact ⟨_, rfl⟩
      | done result final => exact finalised_of_runPasses ran

/-- A result of the planner whose candidates are read back is read back
exactly when its lines keep the limits of the tokenizer and its witnesses name
resources. -/
theorem planned_result_reread_iff (numbers : DoubleText runtime.formatDouble)
    (zero : numbers.IsDouble 0) (env : E) {result : PlanningResult K}
    (planned : (plan runtime options driver snapshot request env).1 = result)
    (typed : result.Typed) (reread : result.CandidatesReread numbers) :
    parseResultText runtime numbers
        (result.canonicalBytes runtime.formatDouble) = .ok result ↔
      result.LinesFit ∧ result.WitnessesNamed := by
  subst planned
  exact parseResultText_canonicalBytes_iff zero typed reread
    (finalised_of_plan env).sealed_

end Planned

/-- A request that names an evidence source the snapshot does not declare. -/
def requiringSource (source : SourceId) : PlanningRequest ℚ :=
  { acrossSpan with requiredSourceGenerations := [(source, 1)] }

theorem planned_result_reread_iff_requiringSource :
    parseResultText rationalRuntime wholeNumbers
        ((singleSpan.planned (requiringSource ⟨text "ems"⟩)).canonicalBytes
          rationalRuntime.formatDouble) =
      .ok (singleSpan.planned (requiringSource ⟨text "ems"⟩)) := by
  have zero : wholeNumbers.IsDouble 0 := ⟨0, by decide, by norm_num⟩
  have noCandidates :
      (singleSpan.planned (requiringSource ⟨text "ems"⟩)).candidates = [] := by
    decide +kernel
  have reread : (singleSpan.planned
      (requiringSource ⟨text "ems"⟩)).CandidatesReread wholeNumbers := by
    rw [PlanningResult.CandidatesReread, noCandidates]
    simp
  have typed : (singleSpan.planned (requiringSource ⟨text "ems"⟩)).Typed := by
    constructor <;> decide +kernel
  refine (planned_result_reread_iff wholeNumbers zero () rfl typed reread).mpr
    ⟨?_, ?_⟩
  · unfold PlanningResult.LinesFit
    decide +kernel
  · unfold PlanningResult.WitnessesNamed
    decide +kernel

/-- A required source with an empty identifier leaves a witness that names no
resource, and the result is refused by its own reader. -/
theorem requiringSource_not_reread :
    (singleSpan.planned (requiringSource ⟨[]⟩)).candidates = [] ∧
      (parseResultText rationalRuntime wholeNumbers
        ((singleSpan.planned (requiringSource ⟨[]⟩)).canonicalBytes
          rationalRuntime.formatDouble)).isOk = false := by
  decide +kernel

end OpticalPathPlanner
