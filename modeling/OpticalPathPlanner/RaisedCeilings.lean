import OpticalPathPlanner.DisjointCandidates

/-!
# Raised ceilings

The bounds of a search only show where the search runs into them, and then it
says so.  A planning that does not report a truncation would have gone the same
way, step by step, under any wider bounds.
-/

namespace OpticalPathPlanner

variable {K E : Type}

/-- The bounds are at most as wide. -/
structure PlannerOptions.Within (options wider : PlannerOptions) : Prop where
  expansions : options.expansionCeiling ≤ wider.expansionCeiling
  labels : options.labelCeiling ≤ wider.labelCeiling

/-- The narrowest bounds that are at least as wide as two others. -/
def PlannerOptions.join (first second : PlannerOptions) : PlannerOptions where
  expansionCeiling := max first.expansionCeiling second.expansionCeiling
  labelCeiling := max first.labelCeiling second.labelCeiling

theorem PlannerOptions.within_join_left (first second : PlannerOptions) :
    first.Within (first.join second) :=
  ⟨le_max_left _ _, le_max_left _ _⟩

theorem PlannerOptions.within_join_right (first second : PlannerOptions) :
    second.Within (first.join second) :=
  ⟨le_max_right _ _, le_max_right _ _⟩

variable [Field K] [LinearOrder K]

/-! ### One search -/

namespace SearchSetup

variable {setup : SearchSetup K E} {wider : PlannerOptions}
  {state next : SearchState K E} {entry : SearchLabel K}

/-- The search under other bounds. -/
def withOptions (setup : SearchSetup K E) (options : PlannerOptions) :
    SearchSetup K E :=
  { setup with options := options }

@[simp]
theorem withOptions_driver (setup : SearchSetup K E) (options : PlannerOptions) :
    (setup.withOptions options).driver = setup.driver :=
  rfl

@[simp]
theorem withOptions_request (setup : SearchSetup K E) (options : PlannerOptions) :
    (setup.withOptions options).request = setup.request :=
  rfl

theorem labelLimit_le (within : setup.options.Within wider) :
    setup.labelLimit ≤ (setup.withOptions wider).labelLimit :=
  min_le_min_right _ within.labels

theorem expansionLimit_le (within : setup.options.Within wider) :
    setup.expansionLimit ≤ (setup.withOptions wider).expansionLimit :=
  min_le_min_right _ within.expansions

theorem fuel_le (within : setup.options.Within wider) :
    setup.fuel ≤ (setup.withOptions wider).fuel := by
  have labels := labelLimit_le within
  unfold fuel
  omega

theorem expandArcs_withOptions (within : setup.options.Within wider)
    (arcs : List ArcRef)
    (untruncated : (setup.expandArcs entry arcs state).truncated = false) :
    (setup.withOptions wider).expandArcs entry arcs state =
      setup.expandArcs entry arcs state := by
  induction arcs generalizing state with
  | nil => rfl
  | cons arc rest ih =>
      have same : (setup.withOptions wider).expandArc entry.label entry.ancestors arc =
          setup.expandArc entry.label entry.ancestors arc := rfl
      rw [expandArcs] at untruncated ⊢
      rw [expandArcs, same]
      cases made : (setup.expandArc entry.label entry.ancestors arc).result with
      | none =>
          simp only [made] at untruncated ⊢
          exact ih untruncated
      | some label =>
          simp only [made] at untruncated ⊢
          by_cases full : state.labelCount ≥ setup.labelLimit
          · rw [if_pos full] at untruncated
            cases untruncated
          · have room : ¬ state.labelCount ≥ (setup.withOptions wider).labelLimit := by
              have labels := labelLimit_le within
              omega
            rw [if_neg full] at untruncated
            rw [if_neg full, if_neg room]
            exact ih untruncated

theorem settle_withOptions (within : setup.options.Within wider)
    (untruncated : ∀ final, setup.settle entry state = .finished final →
      final.truncated = false) :
    (setup.withOptions wider).settle entry state = setup.settle entry state := by
  unfold settle at untruncated ⊢
  by_cases arrived : entry.label.portIndex = setup.destinationPort
  · exact (if_pos arrived).trans (if_pos arrived).symm
  · simp only [if_neg arrived] at untruncated
    have complete : (setup.expandArcs entry
        (setup.outgoingArcs entry.label.portIndex) state).truncated = false := by
      by_contra full
      rw [Bool.not_eq_false] at full
      have ended := untruncated _ (if_pos full)
      simp [full] at ended
    have same := expandArcs_withOptions within
      (setup.outgoingArcs entry.label.portIndex) complete
    refine (if_neg arrived).trans (Eq.trans ?_ (if_neg arrived).symm)
    exact congrArg (fun next : SearchState K E =>
      if next.truncated then Progress.finished next else .running next) same

theorem visit_withOptions (within : setup.options.Within wider)
    (untruncated : ∀ final, setup.visit entry state = .finished final →
      final.truncated = false) :
    (setup.withOptions wider).visit entry state = setup.visit entry state := by
  have settled : state.expanded.contains entry.sequence = false →
      state.stopsOnKey setup.request.maxCandidates entry = false →
      state.isDominated entry = false →
        (setup.withOptions wider).settle entry
            ((state.scanBucket entry).keep setup.driver entry) =
          setup.settle entry ((state.scanBucket entry).keep setup.driver entry) := by
    intro fresh goesOn undominated
    apply settle_withOptions within
    intro final ended
    apply untruncated final
    simp only [visit, fresh, goesOn, undominated, Bool.false_eq_true, if_false, ended]
  have wide : (setup.withOptions wider).visit entry state =
      if state.expanded.contains entry.sequence then .running state
      else if state.stopsOnKey setup.request.maxCandidates entry then
        .finished { state with stoppedOnKey := true }
      else if state.isDominated entry then .running (state.scanBucket entry).discard
      else (setup.withOptions wider).settle entry
        ((state.scanBucket entry).keep setup.driver entry) := rfl
  rw [wide, visit]
  split_ifs with expanded stops dominated
  · rfl
  · rfl
  · rfl
  · exact settled (by simpa using expanded) (by simpa using stops)
      (by simpa using dominated)

/-- A round with the next label of the queue. -/
theorem round_cons {rest : List (SearchLabel K)} (first : state.frontier = entry :: rest) :
    setup.round state =
      if (setup.driver.isRequested state.env).1 then
        .cancelled { state with env := (setup.driver.isRequested state.env).2 }
      else if state.statistics.labelsExpanded ≥ setup.expansionLimit then
        .finished ({ state with env := (setup.driver.isRequested state.env).2 } :
          SearchState K E).truncate
      else
        setup.visit entry (popped state (setup.driver.isRequested state.env).2 rest) := by
  simp only [round, first, popped]

/-- A round under wider bounds is the same, unless it ends the search with a
truncation. -/
theorem round_withOptions (within : setup.options.Within wider)
    (untruncated : ∀ final, setup.round state = .finished final →
      final.truncated = false) :
    (setup.withOptions wider).round state = setup.round state := by
  cases frontier : state.frontier with
  | nil =>
      unfold round
      rw [frontier]
  | cons entry rest =>
      have wide : (setup.withOptions wider).round state =
          if (setup.driver.isRequested state.env).1 then
            .cancelled { state with env := (setup.driver.isRequested state.env).2 }
          else if state.statistics.labelsExpanded ≥
              (setup.withOptions wider).expansionLimit then
            .finished ({ state with env := (setup.driver.isRequested state.env).2 } :
              SearchState K E).truncate
          else
            (setup.withOptions wider).visit entry
              (popped state (setup.driver.isRequested state.env).2 rest) :=
        round_cons frontier
      rw [round_cons frontier] at untruncated
      rw [wide, round_cons frontier]
      by_cases requested : (setup.driver.isRequested state.env).1 = true
      · rw [if_pos requested, if_pos requested]
      · rw [if_neg requested] at untruncated
        rw [if_neg requested, if_neg requested]
        by_cases full : state.statistics.labelsExpanded ≥ setup.expansionLimit
        · rw [if_pos full] at untruncated
          cases untruncated _ rfl
        · have room : ¬ state.statistics.labelsExpanded ≥
              (setup.withOptions wider).expansionLimit := by
            have expansions := expansionLimit_le within
            omega
          rw [if_neg full] at untruncated
          rw [if_neg full, if_neg room]
          exact visit_withOptions within untruncated

/-- Only a search that is over is truncated. -/
theorem round_keepsComplete (complete : state.truncated = false)
    (goesOn : setup.round state = .running next ∨ setup.round state = .cancelled next) :
    next.truncated = false := by
  cases frontier : state.frontier with
  | nil => simp [round, frontier] at goesOn
  | cons entry rest =>
      rw [round_cons frontier] at goesOn
      unfold visit settle at goesOn
      simp only at goesOn
      split_ifs at goesOn with requested full expanded stops dominated arrived truncated
      · simp only [false_or, Progress.cancelled.injEq] at goesOn
        exact goesOn ▸ complete
      · simp at goesOn
      · simp only [or_false, Progress.running.injEq] at goesOn
        exact goesOn ▸ complete
      · simp at goesOn
      · simp only [or_false, Progress.running.injEq] at goesOn
        exact goesOn ▸ complete
      · simp only [or_false, Progress.running.injEq] at goesOn
        exact goesOn ▸ complete
      · simp at goesOn
      · simp only [or_false, Progress.running.injEq] at goesOn
        exact goesOn ▸ (by simpa using truncated)

/-- A search that ends without a truncation ends in the same way under wider
bounds, and in no later round. -/
theorem rounds_withOptions (within : setup.options.Within wider) {fuel more : Nat}
    (enough : fuel ≤ more) (complete : state.truncated = false)
    (ends : ∀ final, setup.rounds fuel state ≠ .running final)
    (untruncated : ∀ final, setup.rounds fuel state = .finished final →
      final.truncated = false) :
    (setup.withOptions wider).rounds more state = setup.rounds fuel state := by
  induction fuel generalizing state more with
  | zero => exact absurd rfl (ends state)
  | succ fuel ih =>
      obtain ⟨more, rfl⟩ := Nat.exists_eq_add_of_le' (Nat.one_le_of_lt enough)
      rw [rounds] at ends untruncated ⊢
      rw [rounds]
      have same : (setup.withOptions wider).round state = setup.round state := by
        apply round_withOptions within
        intro final ended
        rw [ended] at untruncated
        exact untruncated final rfl
      rw [same]
      cases progress : setup.round state with
      | running next =>
          rw [progress] at ends untruncated
          exact ih (by omega) (round_keepsComplete complete (.inl progress)) ends
            untruncated
      | finished final => rfl
      | cancelled final => rfl

theorem rounds_keepsComplete {fuel : Nat} (complete : state.truncated = false)
    (cancelled : setup.rounds fuel state = .cancelled next) :
    next.truncated = false := by
  induction fuel generalizing state with
  | zero => cases cancelled
  | succ fuel ih =>
      rw [rounds] at cancelled
      cases progress : setup.round state with
      | running middle =>
          rw [progress] at cancelled
          exact ih (round_keepsComplete complete (.inl progress)) cancelled
      | finished final =>
          rw [progress] at cancelled
          cases cancelled
      | cancelled final =>
          rw [progress] at cancelled
          cases cancelled
          exact round_keepsComplete complete (.inr progress)

end SearchSetup

/-! ### One planning -/

section Planning

variable {runtime : Runtime K} {snapshot : TopologySnapshot K}
  {request : PlanningRequest K} {options wider : PlannerOptions}
  {driver : SearchDriver E} {env : E} {pass : Nat} {state : PassState K E}

theorem runSearch_wider (within : options.Within wider)
    (untruncated : (runSearch runtime snapshot request options driver
      env).1.statistics.truncated = false) :
    runSearch runtime snapshot request wider driver env =
      runSearch runtime snapshot request options driver env := by
  unfold runSearch at untruncated ⊢
  cases source : snapshot.portIndex request.source with
  | none => rfl
  | some startPort =>
      cases destination : snapshot.portIndex request.destination with
      | none => rfl
      | some destinationPort =>
          cases started : (searchContext runtime snapshot request).startState startPort
              env with
          | none => simp only [started]
          | some start =>
              simp only [source, destination, started] at untruncated ⊢
              generalize same : searchSetup runtime snapshot request options driver
                destinationPort = setup at untruncated ⊢
              have wide : searchSetup runtime snapshot request wider driver
                  destinationPort = setup.withOptions wider := by
                rw [← same]
                rfl
              have begins : setup.startState startPort env = some start := by
                rw [← same]
                exact started
              have bounds : setup.options.Within wider := by
                rw [← same]
                exact within
              obtain ⟨invariant, enough⟩ := SearchSetup.invariant_startState begins
              have ended := invariant.rounds_end enough
              have agrees : (setup.withOptions wider).rounds
                  (setup.withOptions wider).fuel start =
                    setup.rounds setup.fuel start := by
                apply SearchSetup.rounds_withOptions bounds
                  (SearchSetup.fuel_le bounds) invariant.notTruncated
                · intro final running
                  rw [running] at ended
                  simp at ended
                · intro final finished
                  rw [finished] at untruncated
                  exact untruncated
              rw [wide, agrees]

/-- Whether planning has run into a bound so far. -/
def PassProgress.truncated : PassProgress K E → Bool
  | .next state | .stop state => state.result.statistics.truncated
  | .done result _ => result.statistics.truncated

theorem afterSearch_truncated (search : SearchOutcome) :
    (afterSearch runtime snapshot request search state).truncated =
      state.result.statistics.truncated := by
  unfold afterSearch
  by_cases failed : search.status.failed = true
  · rw [if_pos failed]
    rfl
  · rw [if_neg failed]
    split
    · rfl
    · split
      · unfold PassState.withoutPlan PassProgress.truncated
        split_ifs <;> rfl
      · split_ifs <;> rfl

theorem runPass_truncated
    (untruncated : (runPass runtime options driver snapshot request pass
      state).truncated = false) :
    state.result.statistics.truncated = false := by
  unfold runPass at untruncated
  simp only at untruncated
  by_cases invalid : (request.iterative &&
      (request.working runtime state.exclusions).validate.failed) = true
  · rw [if_pos invalid] at untruncated
    exact untruncated
  · rw [if_neg invalid, afterSearch_truncated] at untruncated
    exact (Bool.or_eq_false_iff.mp untruncated).1

theorem runPass_wider (within : options.Within wider)
    (untruncated : (runPass runtime options driver snapshot request pass
      state).truncated = false) :
    runPass runtime wider driver snapshot request pass state =
      runPass runtime options driver snapshot request pass state := by
  unfold runPass at untruncated ⊢
  simp only at untruncated ⊢
  by_cases invalid : (request.iterative &&
      (request.working runtime state.exclusions).validate.failed) = true
  · rw [if_pos invalid, if_pos invalid]
  · rw [if_neg invalid, afterSearch_truncated] at untruncated
    rw [if_neg invalid, if_neg invalid,
      runSearch_wider within (Bool.or_eq_false_iff.mp untruncated).2]

theorem runPasses_truncated {remaining : Nat}
    (untruncated : (runPasses runtime options driver snapshot request remaining pass
      state).truncated = false) :
    state.result.statistics.truncated = false := by
  induction remaining generalizing pass state with
  | zero => exact untruncated
  | succ remaining ih =>
      rw [runPasses] at untruncated
      refine runPass_truncated (?_ : (runPass runtime options driver snapshot request pass
        state).truncated = false)
      cases progress : runPass runtime options driver snapshot request pass state with
      | next next =>
          rw [progress] at untruncated
          exact ih untruncated
      | stop final =>
          rw [progress] at untruncated
          exact untruncated
      | done result final =>
          rw [progress] at untruncated
          exact untruncated

theorem runPasses_wider (within : options.Within wider) {remaining : Nat}
    (untruncated : (runPasses runtime options driver snapshot request remaining pass
      state).truncated = false) :
    runPasses runtime wider driver snapshot request remaining pass state =
      runPasses runtime options driver snapshot request remaining pass state := by
  induction remaining generalizing pass state with
  | zero => rfl
  | succ remaining ih =>
      rw [runPasses] at untruncated ⊢
      rw [runPasses]
      cases progress : runPass runtime options driver snapshot request pass state with
      | next next =>
          rw [progress] at untruncated
          have first := runPasses_truncated untruncated
          rw [runPass_wider within (progress ▸ first), progress]
          exact ih untruncated
      | stop final =>
          rw [progress] at untruncated
          rw [runPass_wider within (progress ▸ untruncated), progress]
      | done result final =>
          rw [progress] at untruncated
          rw [runPass_wider within (progress ▸ untruncated), progress]

omit [Field K] [LinearOrder K] in
theorem classify_truncated :
    (classify snapshot request state).statistics = state.result.statistics := by
  unfold classify
  simp only
  split_ifs <;> rfl

theorem plan_wider (within : options.Within wider)
    (untruncated : (plan runtime options driver snapshot request
      env).1.statistics.truncated = false) :
    plan runtime wider driver snapshot request env =
      plan runtime options driver snapshot request env := by
  unfold plan at untruncated ⊢
  cases early : earlyOutcome snapshot request with
  | some outcome => rfl
  | none =>
      simp only [early] at untruncated ⊢
      rw [runPasses_wider within]
      generalize runPasses runtime options driver snapshot request _ _ _ = progress
        at untruncated ⊢
      cases progress with
      | next final =>
          change (classify snapshot request final).statistics.truncated = false
            at untruncated
          rwa [classify_truncated] at untruncated
      | stop final =>
          change (classify snapshot request final).statistics.truncated = false
            at untruncated
          rwa [classify_truncated] at untruncated
      | done result final => exact untruncated

/-- The bounds of the planner are invisible to whoever does not run into them.  A
planning that reports no truncation, of whatever outcome and under whatever
driver, is the same under all wider bounds, and the same as under any other
bounds that did not truncate it either. -/
theorem raised_ceilings_agree (runtime : Runtime K) (options : PlannerOptions)
    (driver : SearchDriver E) (snapshot : TopologySnapshot K)
    (request : PlanningRequest K) (env : E)
    (untruncated : (plan runtime options driver snapshot request
      env).1.statistics.truncated = false) :
    (∀ wider, options.Within wider →
        plan runtime wider driver snapshot request env =
          plan runtime options driver snapshot request env) ∧
      ∀ other, (plan runtime other driver snapshot request
          env).1.statistics.truncated = false →
        plan runtime other driver snapshot request env =
          plan runtime options driver snapshot request env := by
  refine ⟨fun wider within => plan_wider within untruncated, fun other complete => ?_⟩
  have left := plan_wider (options.within_join_left other) untruncated
  have right := plan_wider (options.within_join_right other) complete
  exact right.symm.trans left

theorem raised_ceilings_agree_twoWays :
    (plan rationalRuntime { expansionCeiling := 16, labelCeiling := 16 } .idle
        (twoWays.finished rationalRuntime) twoByNode ()).1.outcome = .feasible ∧
      twoWays.planned twoByNode =
        (plan rationalRuntime { expansionCeiling := 16, labelCeiling := 16 } .idle
          (twoWays.finished rationalRuntime) twoByNode ()).1 := by
  refine ⟨by decide +kernel, ?_⟩
  have agree := (raised_ceilings_agree rationalRuntime
    { expansionCeiling := 16, labelCeiling := 16 } .idle
    (twoWays.finished rationalRuntime) twoByNode () (by decide +kernel)).1 {}
    ⟨by decide, by decide⟩
  exact congrArg Prod.fst agree

end Planning

end OpticalPathPlanner
