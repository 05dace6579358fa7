import OpticalPathPlanner.PlannerOutcomes

/-!
# What planning asks of its caller

The token of the caller is polled before every label that leaves the queue.
What holds of the caller at first, and is kept by every poll that does not ask
for cancellation and by every report, holds in the end, unless a poll did ask:
then planning leaves the caller as that poll did.
-/

namespace OpticalPathPlanner

variable {K E : Type}

/-- The property is kept by reports and by polls that do not ask for
cancellation. -/
structure SearchDriver.Keeps (driver : SearchDriver E) (holds : E → Prop) :
    Prop where
  observer : ∀ statistics env, holds env → holds (driver.observer statistics env)
  poll : ∀ env, holds env → (driver.isRequested env).1 = false →
    holds (driver.isRequested env).2

/-- A poll under the property asked for cancellation and left the caller in the
given state. -/
def SearchDriver.Stops (driver : SearchDriver E) (holds : E → Prop) (last : E) :
    Prop :=
  ∃ asked, holds asked ∧ driver.isRequested asked = (true, last)

/-! ### Rounds -/

section Rounds

variable [Field K] [LinearOrder K] {setup : SearchSetup K E} {holds : E → Prop}

theorem SearchSetup.expandArcs_env (entry : SearchLabel K) (arcs : List ArcRef)
    (state : SearchState K E) :
    (setup.expandArcs entry arcs state).env = state.env := by
  induction arcs generalizing state with
  | nil => rfl
  | cons arc rest ih =>
      rw [expandArcs]
      split
      · exact ih _
      · split_ifs
        · rfl
        · exact ih _

/-- What a round, or several, made of the caller. -/
def Progress.Kept (driver : SearchDriver E) (holds : E → Prop) :
    Progress K E → Prop
  | .running state | .finished state => holds state.env
  | .cancelled state => driver.Stops holds state.env

theorem SearchSetup.visit_kept (keeps : setup.driver.Keeps holds)
    (entry : SearchLabel K) {state : SearchState K E} (held : holds state.env) :
    (setup.visit entry state).Kept setup.driver holds := by
  have kept : holds ((state.scanBucket entry).keep setup.driver entry).env :=
    keeps.observer _ _ held
  unfold visit
  split_ifs
  · exact held
  · exact held
  · exact held
  · unfold settle
    split_ifs
    · exact kept
    · have same := setup.expandArcs_env entry
        (setup.outgoingArcs entry.label.portIndex)
        ((state.scanBucket entry).keep setup.driver entry)
      dsimp only
      split_ifs
      · exact (same ▸ kept : holds (setup.expandArcs entry _ _).env)
      · exact (same ▸ kept : holds (setup.expandArcs entry _ _).env)

theorem SearchSetup.round_kept (keeps : setup.driver.Keeps holds)
    {state : SearchState K E} (held : holds state.env) :
    (setup.round state).Kept setup.driver holds := by
  unfold round
  cases state.frontier with
  | nil => exact held
  | cons entry rest =>
      cases asked : (setup.driver.isRequested state.env).1 with
      | true =>
          simp only [asked, if_true]
          exact ⟨state.env, held, Prod.ext asked rfl⟩
      | false =>
          have polled := keeps.poll state.env held asked
          simp only [asked, Bool.false_eq_true, if_false]
          split_ifs
          · exact polled
          · exact visit_kept keeps entry polled

theorem SearchSetup.rounds_kept (keeps : setup.driver.Keeps holds) (fuel : Nat)
    {state : SearchState K E} (held : holds state.env) :
    (setup.rounds fuel state).Kept setup.driver holds := by
  induction fuel generalizing state with
  | zero => exact held
  | succ fuel ih =>
      have kept := round_kept keeps held
      unfold rounds
      cases progress : setup.round state with
      | running next =>
          rw [progress] at kept
          exact ih kept
      | finished final =>
          rw [progress] at kept
          exact kept
      | cancelled final =>
          rw [progress] at kept
          exact kept

end Rounds

/-! ### Passes -/

section Passes

variable [Field K] [LinearOrder K] {runtime : Runtime K} {options : PlannerOptions}
  {driver : SearchDriver E} {snapshot : TopologySnapshot K}
  {request : PlanningRequest K} {holds : E → Prop} {env : E}

/-- What a search made of the caller, and what it tells of it. -/
def SearchKept (driver : SearchDriver E) (holds : E → Prop)
    (search : SearchOutcome × E) : Prop :=
  (holds search.2 ∧ search.1.status.code ≠ .cancelled) ∨
    (search.1.status.failed = true ∧ driver.Stops holds search.2)

theorem runSearch_kept (keeps : driver.Keeps holds) (held : holds env) :
    SearchKept driver holds
      (runSearch runtime snapshot request options driver env) := by
  unfold runSearch
  cases snapshot.portIndex request.source with
  | none => exact .inl ⟨held, by simp [failure]⟩
  | some startPort =>
      cases snapshot.portIndex request.destination with
      | none => exact .inl ⟨held, by simp [failure]⟩
      | some destinationPort =>
          simp only
          cases started : (searchContext runtime snapshot request).startState
              startPort env with
          | none => exact .inl ⟨held, by simp [SearchOutcome.empty, okStatus]⟩
          | some state =>
              have same : state.env = env := by
                obtain ⟨label, -, rfl⟩ := Option.map_eq_some_iff.mp started
                rfl
              have kept := (searchSetup runtime snapshot request options driver
                destinationPort).rounds_kept keeps
                (searchSetup runtime snapshot request options driver
                  destinationPort).fuel (same.symm ▸ held : holds state.env)
              simp only
              split
              · next running =>
                  rw [running] at kept
                  exact .inl ⟨kept, by simp [SearchState.outcome, okStatus]⟩
              · next finished =>
                  rw [finished] at kept
                  exact .inl ⟨kept, by simp [SearchState.outcome, okStatus]⟩
              · next cancelled =>
                  rw [cancelled] at kept
                  exact .inr ⟨rfl, kept⟩

/-- What a pass made of the caller. -/
def PassProgress.Kept (driver : SearchDriver E) (holds : E → Prop) :
    PassProgress K E → Prop
  | .next state | .stop state => holds state.env
  | .done result last =>
      (holds last ∧ result.outcome ≠ .cancelled) ∨ driver.Stops holds last

theorem afterSearch_kept {search : SearchOutcome} {state : PassState K E}
    (kept : SearchKept driver holds (search, state.env)) :
    (afterSearch runtime snapshot request search state).Kept driver holds := by
  have held (succeeded : search.status.failed = false) : holds state.env := by
    refine kept.elim And.left fun stopped => ?_
    rw [stopped.1] at succeeded
    cases succeeded
  refine afterSearch_elim ?failed ?refused ?unplanned ?planned
  case failed =>
    intro _
    refine kept.imp (fun uncancelled => ⟨uncancelled.1, ?_⟩) And.right
    change (if search.status.code = .cancelled then PlanOutcome.cancelled
      else .refused) ≠ .cancelled
    rw [if_neg uncancelled.2]
    decide
  case refused =>
    intro _ succeeded _
    exact .inl ⟨held succeeded, by simp [finaliseResult, Runtime.sealResult]⟩
  case unplanned =>
    intro _ _ succeeded _ _
    unfold PassState.withoutPlan PassProgress.Kept
    dsimp only
    split_ifs <;> exact held succeeded
  case planned =>
    intro _ _ _ _ succeeded _ _
    split_ifs <;> exact held succeeded

theorem runPass_kept (keeps : driver.Keeps holds) (pass : Nat)
    {state : PassState K E} (held : holds state.env) :
    (runPass runtime options driver snapshot request pass state).Kept driver
      holds := by
  unfold runPass
  dsimp only
  split
  · exact held
  · exact afterSearch_kept (runSearch_kept keeps held)

theorem runPasses_kept (keeps : driver.Keeps holds) (remaining pass : Nat)
    {state : PassState K E} (held : holds state.env) :
    (runPasses runtime options driver snapshot request remaining pass state).Kept
      driver holds := by
  induction remaining generalizing pass state with
  | zero => exact held
  | succ remaining ih =>
      have kept : (runPass runtime options driver snapshot request pass state).Kept
        driver holds := runPass_kept keeps pass held
      unfold runPasses
      cases progress : runPass runtime options driver snapshot request pass state with
      | next next =>
          rw [progress] at kept
          exact ih (pass + 1) kept
      | stop final =>
          rw [progress] at kept
          exact kept
      | done result last =>
          rw [progress] at kept
          exact kept

omit [Field K] [LinearOrder K] in
theorem classify_ne_cancelled (snapshot : TopologySnapshot K)
    (request : PlanningRequest K) (state : PassState K E) :
    (classify snapshot request state).outcome ≠ .cancelled := by
  unfold classify
  dsimp only
  split_ifs <;> simp

/-- Nothing is cancelled before the search. -/
theorem earlyOutcome_ne_cancelled {early : EarlyOutcome}
    (ends : earlyOutcome snapshot request = some early) :
    early.outcome ≠ .cancelled := by
  simp only [earlyOutcome, Option.orElse_eq_some] at ends
  rcases ends with invalid | ⟨-, stale | ⟨-, old | ⟨-, other | ⟨-, source |
    ⟨-, grid | ⟨-, endpoint⟩⟩⟩⟩⟩⟩
  · simp only [requestOutcome] at invalid
    split_ifs at invalid <;> cases invalid <;> simp
  · unfold freshnessOutcome at stale
    split_ifs at stale
    cases stale
    simp
  · unfold generationOutcome at old
    split at old
    · cases old
    · split_ifs at old
      cases old
      simp
  · unfold digestOutcome at other
    split at other
    · cases other
    · split_ifs at other
      cases other
      simp
  · obtain ⟨entry, -, missing⟩ := List.exists_of_findSome?_eq_some source
    unfold sourceOutcome at missing
    split_ifs at missing <;> cases missing <;> simp
  · unfold gridOutcome at grid
    split_ifs at grid
    cases grid
    simp
  · simp only [endpointOutcome] at endpoint
    split_ifs at endpoint <;> cases endpoint <;> simp

/-- What planning makes of its caller. -/
theorem plan_kept (keeps : driver.Keeps holds) (held : holds env) :
    (holds (plan runtime options driver snapshot request env).2 ∧
        (plan runtime options driver snapshot request env).1.outcome ≠ .cancelled) ∨
      driver.Stops holds (plan runtime options driver snapshot request env).2 := by
  unfold plan
  cases searching : earlyOutcome snapshot request with
  | some early => exact .inl ⟨held, earlyOutcome_ne_cancelled searching⟩
  | none =>
      simp only
      have kept : (runPasses runtime options driver snapshot request
          (if request.iterative then request.maxCandidates else 1) 0
          (startPasses runtime snapshot request env)).Kept driver holds :=
        runPasses_kept keeps _ 0 held
      cases progress : runPasses runtime options driver snapshot request
          (if request.iterative then request.maxCandidates else 1) 0
          (startPasses runtime snapshot request env) with
      | next final =>
          rw [progress] at kept
          exact .inl ⟨kept, classify_ne_cancelled snapshot request final⟩
      | stop final =>
          rw [progress] at kept
          exact .inl ⟨kept, classify_ne_cancelled snapshot request final⟩
      | done result last =>
          rw [progress] at kept
          exact kept

end Passes

end OpticalPathPlanner
