import OpticalPathPlanner.HardConstraints
import OpticalPathPlanner.SearchPolls

/-!
# Late cancellation

The token of the caller is polled where the main loop takes a label from the
queue, and nowhere else.  A run whose caller asks for cancellation goes in step
with the run of a caller that never asks until the first poll after the request.
So a request from the observer is honoured exactly when the undisturbed run
polls again after that expansion.
-/

namespace OpticalPathPlanner

variable {K E F : Type}

/-! ### Callers in step -/

/-- A caller that may ask for cancellation beside a patient one.  They stay
related until the first one asks; from then on the patient one is late. -/
structure SearchDriver.InStep (driver : SearchDriver E)
    (patient : SearchDriver F) (related : E → F → Prop) (late : F → Prop) :
    Prop where
  observer : ∀ statistics env other, related env other →
    related (driver.observer statistics env) (patient.observer statistics other)
  waits : patient.NeverCancels
  continues : ∀ env other, related env other →
    (driver.isRequested env).1 = false →
      related (driver.isRequested env).2 (patient.isRequested other).2
  asks : ∀ env other, related env other → (driver.isRequested env).1 = true →
    late (patient.isRequested other).2
  stays : patient.Keeps late

/-! ### States without their caller -/

def SearchState.withEnv (state : SearchState K F) (env : E) :
    SearchState K E where
  frontier := state.frontier
  buckets := state.buckets
  retained := state.retained
  expanded := state.expanded
  labelCount := state.labelCount
  destinationLabels := state.destinationLabels
  retainedDestinationCount := state.retainedDestinationCount
  lastDestinationKey := state.lastDestinationKey
  stoppedOnKey := state.stoppedOnKey
  truncated := state.truncated
  notes := state.notes
  statistics := state.statistics
  env := env

def PassState.withEnv (state : PassState K F) (env : E) : PassState K E where
  result := state.result
  accepted := state.accepted
  exclusions := state.exclusions
  firstPassProvedOptimum := state.firstPassProvedOptimum
  stoppedOnKnowledgeGap := state.stoppedOnKnowledgeGap
  stoppedOnTruncation := state.stoppedOnTruncation
  stoppingStatus := state.stoppingStatus
  env := env

def Progress.env : Progress K E → E
  | .running state | .finished state | .cancelled state => state.env

def PassProgress.env : PassProgress K E → E
  | .next state | .stop state => state.env
  | .done _ env => env

/-- A run in step with the run of a patient caller, or one that was cancelled
while the patient caller goes on. -/
inductive Progress.InStep (related : E → F → Prop) (late : F → Prop) :
    Progress K E → Progress K F → Prop
  | running (other : SearchState K F) {env : E} (same : related env other.env) :
      InStep related late (.running (other.withEnv env)) (.running other)
  | finished (other : SearchState K F) {env : E} (same : related env other.env) :
      InStep related late (.finished (other.withEnv env)) (.finished other)
  | cancelled {state : SearchState K E} {progress : Progress K F}
      (overdue : late progress.env) :
      InStep related late (.cancelled state) progress

inductive PassProgress.InStep (related : E → F → Prop) (late : F → Prop) :
    PassProgress K E → PassProgress K F → Prop
  | next (other : PassState K F) {env : E} (same : related env other.env) :
      InStep related late (.next (other.withEnv env)) (.next other)
  | stop (other : PassState K F) {env : E} (same : related env other.env) :
      InStep related late (.stop (other.withEnv env)) (.stop other)
  | done {result : PlanningResult K} {env : E} {other : F}
      (same : related env other) :
      InStep related late (.done result env) (.done result other)
  | cancelled {result : PlanningResult K} {env : E} {progress : PassProgress K F}
      (isCancelled : result.outcome = .cancelled) (overdue : late progress.env) :
      InStep related late (.done result env) progress

/-! ### Rounds -/

section Rounds

variable [Field K] [LinearOrder K]

def SearchSetup.withDriver (setup : SearchSetup K F) (driver : SearchDriver E) :
    SearchSetup K E :=
  { setup.toSearchContext with
    request := setup.request
    options := setup.options
    driver := driver
    destinationPort := setup.destinationPort }

variable {setup : SearchSetup K F} {driver : SearchDriver E}
  {related : E → F → Prop} {late : F → Prop}

theorem SearchSetup.expandArcs_withEnv (entry : SearchLabel K)
    (arcs : List ArcRef) (state : SearchState K F) (env : E) :
    (setup.withDriver driver).expandArcs entry arcs (state.withEnv env) =
      (setup.expandArcs entry arcs state).withEnv env := by
  induction arcs generalizing state with
  | nil => rfl
  | cons arc rest ih =>
      let notes := (setup.expandArc entry.label entry.ancestors arc).notes
      cases result : (setup.expandArc entry.label entry.ancestors arc).result with
      | none =>
          have alsoNone : ((setup.withDriver driver).expandArc entry.label
              entry.ancestors arc).result = none := result
          simp only [expandArcs, result, alsoNone]
          exact ih (state.examine notes)
      | some next =>
          have alsoSome : ((setup.withDriver driver).expandArc entry.label
              entry.ancestors arc).result = some next := result
          simp only [expandArcs, result, alsoSome]
          by_cases full : state.labelCount ≥ setup.labelLimit
          · have alsoFull : (state.withEnv env).labelCount ≥
                (setup.withDriver driver).labelLimit := full
            rw [if_pos full, if_pos alsoFull]
            rfl
          · have alsoOpen : ¬ (state.withEnv env).labelCount ≥
                (setup.withDriver driver).labelLimit := full
            rw [if_neg full, if_neg alsoOpen]
            exact ih ((state.examine notes).pushLabel next entry.path)

theorem SearchSetup.settle_inStep (entry : SearchLabel K)
    (state : SearchState K F) {env : E} (same : related env state.env) :
    Progress.InStep related late
      ((setup.withDriver driver).settle entry (state.withEnv env))
      (setup.settle entry state) := by
  by_cases atDestination : entry.label.portIndex = setup.destinationPort
  · have alsoThere : entry.label.portIndex =
        (setup.withDriver driver).destinationPort := atDestination
    rw [settle, settle, if_pos atDestination, if_pos alsoThere]
    exact .running (state.reachDestination entry) same
  · have alsoElsewhere : ¬ entry.label.portIndex =
        (setup.withDriver driver).destinationPort := atDestination
    let next := setup.expandArcs entry (setup.outgoingArcs entry.label.portIndex)
      state
    have expanded : (setup.withDriver driver).expandArcs entry
        ((setup.withDriver driver).outgoingArcs entry.label.portIndex)
        (state.withEnv env) = next.withEnv env :=
      expandArcs_withEnv entry _ state env
    have stillSame : related env next.env := by
      rw [expandArcs_env]
      exact same
    rw [settle, settle, if_neg atDestination, if_neg alsoElsewhere, expanded]
    by_cases truncated : next.truncated = true
    · rw [if_pos truncated]
      exact (if_pos truncated).symm ▸ .finished next stillSame
    · rw [if_neg truncated]
      exact (if_neg truncated).symm ▸ .running next stillSame

omit [Field K] [LinearOrder K] in
/-- A patient caller is not stopped. -/
theorem Progress.Kept.env_of_waits {patient : SearchDriver F}
    {progress : Progress K F} (waits : patient.NeverCancels)
    (kept : progress.Kept patient late) : late progress.env := by
  cases progress with
  | running state => exact kept
  | finished state => exact kept
  | cancelled state =>
      obtain ⟨asked, _, stopped⟩ := kept
      have never := waits asked
      rw [stopped] at never
      cases never

theorem SearchSetup.visit_inStep
    (inStep : driver.InStep setup.driver related late) (entry : SearchLabel K)
    (state : SearchState K F) {env : E} (same : related env state.env) :
    Progress.InStep related late
      ((setup.withDriver driver).visit entry (state.withEnv env))
      (setup.visit entry state) := by
  unfold visit
  change Progress.InStep related late
    (if state.expanded.contains entry.sequence then _
    else if state.stopsOnKey setup.request.maxCandidates entry then _
    else if state.isDominated entry then _ else _) _
  split_ifs
  · exact .running state same
  · exact .finished { state with stoppedOnKey := true } same
  · exact .running (state.scanBucket entry).discard same
  · exact settle_inStep entry ((state.scanBucket entry).keep setup.driver entry)
      (inStep.observer _ _ _ same)

theorem SearchSetup.round_inStep
    (inStep : driver.InStep setup.driver related late)
    {state : SearchState K F} {env : E} (same : related env state.env) :
    Progress.InStep related late
      ((setup.withDriver driver).round (state.withEnv env))
      (setup.round state) := by
  have waits := inStep.waits state.env
  unfold round
  cases queue : state.frontier with
  | nil =>
      have alsoEmpty : (state.withEnv env).frontier = [] := queue
      simp only [alsoEmpty]
      exact .finished state same
  | cons entry rest =>
      have alsoQueue : (state.withEnv env).frontier = entry :: rest := queue
      simp only [alsoQueue, waits, Bool.false_eq_true, if_false]
      let polled := { state with
        frontier := entry :: rest
        env := (setup.driver.isRequested state.env).2 }
      cases asked : (driver.isRequested env).1 with
      | true =>
          have overdue : late polled.env := inStep.asks env state.env same asked
          have alsoAsked : ((setup.withDriver driver).driver.isRequested
              (state.withEnv env).env).1 = true := asked
          simp only [alsoAsked, if_true]
          refine .cancelled ?_
          split_ifs
          · exact overdue
          · have held : late { polled with frontier := rest }.env := overdue
            exact (visit_kept inStep.stays entry held).env_of_waits inStep.waits
      | false =>
          have continues : related (driver.isRequested env).2 polled.env :=
            inStep.continues env state.env same asked
          have alsoAsked : ((setup.withDriver driver).driver.isRequested
              (state.withEnv env).env).1 = false := asked
          simp only [alsoAsked, Bool.false_eq_true, if_false]
          by_cases bound : state.statistics.labelsExpanded ≥ setup.expansionLimit
          · have alsoBound : (state.withEnv env).statistics.labelsExpanded ≥
                (setup.withDriver driver).expansionLimit := bound
            rw [if_pos bound, if_pos alsoBound]
            exact .finished polled.truncate continues
          · have alsoOpen : ¬ (state.withEnv env).statistics.labelsExpanded ≥
                (setup.withDriver driver).expansionLimit := bound
            rw [if_neg bound, if_neg alsoOpen]
            exact visit_inStep inStep entry { polled with frontier := rest }
              continues

theorem SearchSetup.rounds_inStep
    (inStep : driver.InStep setup.driver related late) (fuel : Nat)
    {state : SearchState K F} {env : E} (same : related env state.env) :
    Progress.InStep related late
      ((setup.withDriver driver).rounds fuel (state.withEnv env))
      (setup.rounds fuel state) := by
  induction fuel generalizing state env with
  | zero => exact .running state same
  | succ fuel ih =>
      have first := round_inStep inStep same
      unfold rounds
      generalize (setup.withDriver driver).round (state.withEnv env) = progress
        at first ⊢
      generalize setup.round state = other at first ⊢
      cases first with
      | running next same => exact ih same
      | finished final same => exact .finished final same
      | cancelled overdue =>
          refine .cancelled ?_
          cases other with
          | running next =>
              exact (rounds_kept inStep.stays fuel overdue).env_of_waits
                inStep.waits
          | finished final => exact overdue
          | cancelled final => exact overdue

end Rounds

/-! ### Passes -/

section Passes

variable [Field K] [LinearOrder K] {runtime : Runtime K}
  {options : PlannerOptions} {driver : SearchDriver E}
  {patient : SearchDriver F} {snapshot : TopologySnapshot K}
  {request : PlanningRequest K} {related : E → F → Prop} {late : F → Prop}

/-- A search in step with the search of a patient caller. -/
def SearchInStep (related : E → F → Prop) (late : F → Prop)
    (search : SearchOutcome × E) (other : SearchOutcome × F) : Prop :=
  (search.1 = other.1 ∧ related search.2 other.2) ∨
    (search.1.status.failed = true ∧ search.1.status.code = .cancelled ∧
      late other.2)

theorem runSearch_late (waits : patient.NeverCancels)
    (stays : patient.Keeps late) {other : F} (overdue : late other) :
    late (runSearch runtime snapshot request options patient other).2 := by
  have kept : SearchKept patient late
      (runSearch runtime snapshot request options patient other) :=
    runSearch_kept stays overdue
  rcases kept with held | stopped
  · exact held.1
  · obtain ⟨_, asked, _, stopped⟩ := stopped
    have never := waits asked
    rw [stopped] at never
    cases never

variable (runtime options driver snapshot request) in
/-- The main loop of a search, from its start label. -/
def searchFrom (destinationPort : Nat) (start : Traced Note (Label K))
    (label : Label K) (env : E) : Progress K E :=
  (searchSetup runtime snapshot request options driver destinationPort).rounds
    (searchSetup runtime snapshot request options driver destinationPort).fuel
    (((SearchState.initial env).addNotes start.notes).pushLabel label [])

variable (runtime options snapshot request) in
theorem searchFrom_inStep (inStep : driver.InStep patient related late)
    (destinationPort : Nat) (start : Traced Note (Label K)) (label : Label K)
    {env : E} {other : F} (same : related env other) :
    Progress.InStep related late
      (searchFrom runtime options driver snapshot request destinationPort start
        label env)
      (searchFrom runtime options patient snapshot request destinationPort start
        label other) := by
  let beside := searchSetup runtime snapshot request options patient
    destinationPort
  let state : SearchState K F :=
    ((SearchState.initial other).addNotes start.notes).pushLabel label []
  have related : related env state.env := same
  have ran := beside.rounds_inStep inStep beside.fuel related
  exact ran

theorem runSearch_inStep (inStep : driver.InStep patient related late) {env : E}
    {other : F} (same : related env other) :
    SearchInStep related late
      (runSearch runtime snapshot request options driver env)
      (runSearch runtime snapshot request options patient other) := by
  unfold runSearch
  cases snapshot.portIndex request.source with
  | none => exact .inl ⟨rfl, same⟩
  | some startPort =>
      cases snapshot.portIndex request.destination with
      | none => exact .inl ⟨rfl, same⟩
      | some destinationPort =>
          simp only
          unfold SearchContext.startState
          cases ((searchContext runtime snapshot request).startLabel
              startPort).result with
          | none => exact .inl ⟨rfl, same⟩
          | some label =>
              have ran := searchFrom_inStep runtime options snapshot request inStep
                destinationPort ((searchContext runtime snapshot
                  request).startLabel startPort) label same
              unfold searchFrom at ran
              simp only [Option.map_some]
              generalize (searchSetup runtime snapshot request options driver
                destinationPort).rounds _ _ = progress at ran ⊢
              generalize (searchSetup runtime snapshot request options patient
                destinationPort).rounds _ _ = others at ran ⊢
              cases ran with
              | running final same => exact .inl ⟨rfl, same⟩
              | finished final same => exact .inl ⟨rfl, same⟩
              | cancelled overdue =>
                  refine .inr ⟨rfl, rfl, ?_⟩
                  cases others with
                  | running final => exact overdue
                  | finished final => exact overdue
                  | cancelled final => exact overdue

omit [Field K] [LinearOrder K] in
variable (snapshot) in
theorem withoutPlan_env (search : SearchOutcome) (unproven : Bool)
    (state : PassState K F) :
    (state.withoutPlan snapshot search unproven).env = state.env := by
  unfold PassState.withoutPlan
  split_ifs <;> rfl

theorem afterSearch_inStep (search : SearchOutcome) (state : PassState K F)
    {env : E} (same : related env state.env) :
    PassProgress.InStep related late
      (afterSearch runtime snapshot request search (state.withEnv env))
      (afterSearch runtime snapshot request search state) := by
  unfold afterSearch
  by_cases failed : search.status.failed = true
  · rw [if_pos failed, if_pos failed]
    exact .done same
  · rw [if_neg failed, if_neg failed]
    have digest : (state.withEnv env).result.requestDigest =
        state.result.requestDigest := rfl
    rw [digest]
    cases buildPaths (searchContext runtime snapshot request) request
        state.result.requestDigest request.buildBudget [] false search.paths with
    | error status => exact .done same
    | ok outcome =>
        obtain ⟨built, unproven⟩ := outcome
        simp only
        cases runtime.routine.sort planLess built with
        | nil =>
            have withoutPlan : (state.withEnv env).withoutPlan snapshot search
                unproven =
                  (state.withoutPlan snapshot search unproven).withEnv env := by
              unfold PassState.withoutPlan
              split_ifs <;> rfl
            have kept := withoutPlan_env snapshot search unproven state
            simp only [withoutPlan]
            exact .stop _ (kept.symm ▸ same : related env _)
        | cons best others =>
            simp only
            by_cases iterative : request.iterative = true
            · rw [if_pos iterative, if_pos iterative]
              exact .next { state with
                accepted := state.accepted ++ [best]
                exclusions := extendExclusions best request.disjointness
                  state.exclusions } same
            · rw [if_neg iterative, if_neg iterative]
              exact .stop { state with
                accepted := state.accepted ++ (best :: others).take
                  (request.maxCandidates - state.accepted.length) } same

omit [Field K] [LinearOrder K] in
/-- A patient caller is not stopped. -/
theorem PassProgress.Kept.env_of_waits {progress : PassProgress K F}
    (waits : patient.NeverCancels) (kept : progress.Kept patient late) :
    late progress.env := by
  cases progress with
  | next state => exact kept
  | stop state => exact kept
  | done result last =>
      rcases kept with held | ⟨asked, _, stopped⟩
      · exact held.1
      · have never := waits asked
        rw [stopped] at never
        cases never

omit [Field K] [LinearOrder K] in
/-- The caller is looked at before and after a search only. -/
theorem searched_withEnv (state : PassState K F) (env : E) (pass : Nat)
    {search : SearchOutcome × E} {other : SearchOutcome × F}
    (same : search.1 = other.1) :
    (state.withEnv env).searched pass search =
      (state.searched pass other).withEnv search.2 := by
  unfold PassState.searched
  rw [same]
  rfl

theorem afterSearch_env (search : SearchOutcome) (state : PassState K F) :
    (afterSearch runtime snapshot request search state).env = state.env := by
  refine afterSearch_elim ?failed ?refused ?unplanned ?planned
  case failed => exact fun _ => rfl
  case refused => exact fun _ _ _ => rfl
  case unplanned =>
    exact fun _ unproven _ _ _ => withoutPlan_env snapshot search unproven state
  case planned =>
    intro _ _ _ _ _ _ _
    split_ifs <;> rfl

theorem runPass_inStep (inStep : driver.InStep patient related late) (pass : Nat)
    (state : PassState K F) {env : E} (same : related env state.env) :
    PassProgress.InStep related late
      (runPass runtime options driver snapshot request pass (state.withEnv env))
      (runPass runtime options patient snapshot request pass state) := by
  cases invalid : request.iterative &&
      (request.working runtime state.exclusions).validate.failed with
  | true =>
      have alsoInvalid : (request.iterative && (request.working runtime
          (state.withEnv env).exclusions).validate.failed) = true := invalid
      unfold runPass
      simp only [invalid, alsoInvalid, if_true]
      exact .stop { state with
        stoppingStatus := (request.working runtime state.exclusions).validate }
        same
  | false =>
      have alsoValid : (request.iterative && (request.working runtime
          (state.withEnv env).exclusions).validate.failed) = false := invalid
      have searched : SearchInStep related late
          (passSearch runtime options driver snapshot request
            (state.withEnv env).exclusions (state.withEnv env).env)
          (passSearch runtime options patient snapshot request state.exclusions
            state.env) := runSearch_inStep inStep same
      rw [runPass_eq pass invalid, runPass_eq pass alsoValid]
      generalize passSearch runtime options driver snapshot request
        (state.withEnv env).exclusions (state.withEnv env).env = search
        at searched ⊢
      generalize passSearch runtime options patient snapshot request
        state.exclusions state.env = other at searched ⊢
      rcases searched with ⟨sameOutcome, sameEnv⟩ | ⟨failed, cancelled, overdue⟩
      · rw [searched_withEnv state env pass sameOutcome, sameOutcome]
        exact afterSearch_inStep _ _ sameEnv
      · have ended : afterSearch runtime snapshot request search.1
            ((state.withEnv env).searched pass search) =
            .done (finaliseResult runtime
              { ((state.withEnv env).searched pass search).result with
                outcome := .cancelled
                status := search.1.status }) search.2 := by
          rw [afterSearch, if_pos failed, if_pos cancelled]
          rfl
        rw [ended]
        refine .cancelled rfl ?_
        rw [afterSearch_env]
        exact overdue

theorem runPasses_inStep (inStep : driver.InStep patient related late)
    (remaining pass : Nat) (state : PassState K F) {env : E}
    (same : related env state.env) :
    PassProgress.InStep related late
      (runPasses runtime options driver snapshot request remaining pass
        (state.withEnv env))
      (runPasses runtime options patient snapshot request remaining pass
        state) := by
  induction remaining generalizing pass state env with
  | zero => exact .stop state same
  | succ remaining ih =>
      have first : PassProgress.InStep related late
          (runPass runtime options driver snapshot request pass
            (state.withEnv env))
          (runPass runtime options patient snapshot request pass state) :=
        runPass_inStep inStep pass state same
      unfold runPasses
      generalize runPass runtime options driver snapshot request pass
        (state.withEnv env) = progress at first ⊢
      generalize runPass runtime options patient snapshot request pass state =
        others at first ⊢
      cases first with
      | next next same => exact ih (pass + 1) next same
      | stop final same => exact .stop final same
      | done same => exact .done same
      | cancelled isCancelled overdue =>
          refine .cancelled isCancelled ?_
          cases others with
          | next next =>
              have kept : (runPasses runtime options patient snapshot request
                  remaining (pass + 1) next).Kept patient late :=
                runPasses_kept inStep.stays remaining (pass + 1) overdue
              exact kept.env_of_waits inStep.waits
          | stop final => exact overdue
          | done result last => exact overdue

variable (runtime options snapshot request) in
/-- Planning for a caller in step with a patient one returns the same result,
or was cancelled while the patient caller went on. -/
theorem plan_inStep (inStep : driver.InStep patient related late) {env : E}
    {other : F} (same : related env other) :
    ((plan runtime options driver snapshot request env).1 =
        (plan runtime options patient snapshot request other).1 ∧
      related (plan runtime options driver snapshot request env).2
        (plan runtime options patient snapshot request other).2) ∨
    ((plan runtime options driver snapshot request env).1.outcome = .cancelled ∧
      late (plan runtime options patient snapshot request other).2) := by
  unfold plan
  cases earlyOutcome snapshot request with
  | some early => exact .inl ⟨rfl, same⟩
  | none =>
      simp only
      have ran : PassProgress.InStep related late
          (runPasses runtime options driver snapshot request
            (if request.iterative then request.maxCandidates else 1) 0
            (startPasses runtime snapshot request env))
          (runPasses runtime options patient snapshot request
            (if request.iterative then request.maxCandidates else 1) 0
            (startPasses runtime snapshot request other)) :=
        runPasses_inStep inStep _ 0 (startPasses runtime snapshot request other)
          same
      generalize runPasses runtime options driver snapshot request _ _ _ =
        progress at ran ⊢
      generalize runPasses runtime options patient snapshot request _ _ _ =
        others at ran ⊢
      cases ran with
      | next final same => exact .inl ⟨rfl, same⟩
      | stop final same => exact .inl ⟨rfl, same⟩
      | done same => exact .inl ⟨rfl, same⟩
      | cancelled isCancelled overdue =>
          refine .inr ⟨isCancelled, ?_⟩
          cases others with
          | next next => exact overdue
          | stop final => exact overdue
          | done result last => exact overdue

end Passes

/-! ### Requests from the observer -/

/-- What a search asks of its caller, in order. -/
inductive CallerEvent
  | polled
  | expanded
deriving DecidableEq

/-- A patient caller that writes down what it is asked. -/
def SearchDriver.recording : SearchDriver (List CallerEvent) where
  isRequested events := (false, events ++ [.polled])
  observer _ events := events ++ [.expanded]

/-- A caller whose observer requests cancellation in the callback with the
given number, over all passes, and whose token stays requested. -/
structure SearchDriver.RequestsAt (driver : SearchDriver E) (number : Nat)
    (callbacks : E → Nat) : Prop where
  observer : ∀ statistics env,
    callbacks (driver.observer statistics env) = callbacks env + 1
  poll : ∀ env, (driver.isRequested env).1 = decide (number ≤ callbacks env) ∧
    callbacks (driver.isRequested env).2 = callbacks env

/-- The token is polled again after the expansion with the given number. -/
def PolledAfter (number : Nat) (events : List CallerEvent) : Prop :=
  ∃ before after, events = before ++ .polled :: after ∧
    number ≤ before.count .expanded

theorem PolledAfter.append {number : Nat} {events : List CallerEvent}
    (polled : PolledAfter number events) (more : List CallerEvent) :
    PolledAfter number (events ++ more) := by
  obtain ⟨before, after, rfl, enough⟩ := polled
  exact ⟨before, after ++ more, by simp, enough⟩

theorem polledAfter_concat_iff {number : Nat} {events : List CallerEvent}
    {event : CallerEvent} :
    PolledAfter number (events ++ [event]) ↔ PolledAfter number events ∨
      (event = .polled ∧ number ≤ events.count .expanded) := by
  constructor
  · rintro ⟨before, after, same, enough⟩
    rcases List.eq_nil_or_concat after with rfl | ⟨front, last, rfl⟩
    · obtain ⟨rfl, isPoll⟩ := List.append_inj' same rfl
      exact .inr ⟨List.singleton_inj.mp isPoll, enough⟩
    · rw [List.concat_eq_append, ← List.cons_append, ← List.append_assoc] at same
      obtain ⟨rfl, _⟩ := List.append_inj' same rfl
      exact .inl ⟨before, front, rfl, enough⟩
  · rintro (polled | ⟨rfl, enough⟩)
    · exact polled.append [event]
    · exact ⟨events, [], rfl, enough⟩

/-- Until the token is polled after the request, the caller with the request is
in step with the one that writes down. -/
theorem SearchDriver.RequestsAt.inStep {driver : SearchDriver E} {number : Nat}
    {callbacks : E → Nat} (requests : driver.RequestsAt number callbacks) :
    driver.InStep .recording
      (fun env events => callbacks env = events.count .expanded ∧
        ¬ PolledAfter number events)
      (PolledAfter number) where
  observer statistics env events := by
    rintro ⟨same, notYet⟩
    change _ = (events ++ [CallerEvent.expanded]).count .expanded ∧
      ¬ PolledAfter number (events ++ [CallerEvent.expanded])
    rw [requests.observer, same, List.count_append, polledAfter_concat_iff]
    refine ⟨rfl, ?_⟩
    rintro (polled | ⟨isPoll, _⟩)
    · exact notYet polled
    · cases isPoll
  waits _ := rfl
  continues env events := by
    rintro ⟨same, notYet⟩ waits
    change _ = (events ++ [CallerEvent.polled]).count .expanded ∧
      ¬ PolledAfter number (events ++ [CallerEvent.polled])
    rw [(requests.poll env).1, decide_eq_false_iff_not, same] at waits
    rw [(requests.poll env).2, same, List.count_append, polledAfter_concat_iff]
    refine ⟨rfl, ?_⟩
    rintro (polled | ⟨_, enough⟩)
    · exact notYet polled
    · exact waits enough
  asks env events := by
    rintro ⟨same, _⟩ asked
    rw [(requests.poll env).1, decide_eq_true_eq, same] at asked
    exact polledAfter_concat_iff.mpr (.inr ⟨rfl, asked⟩)
  stays := {
    observer := fun _ _ polled => polled.append _
    poll := fun _ polled _ => polled.append _ }

section Requests

variable [Field K] [LinearOrder K] {runtime : Runtime K}
  {options : PlannerOptions} {driver : SearchDriver E}
  {snapshot : TopologySnapshot K} {request : PlanningRequest K}

/-- A run without a cancellation is not cancelled. -/
theorem plan_ne_cancelled (waits : driver.NeverCancels) (env : E) :
    (plan runtime options driver snapshot request env).1.outcome ≠
      .cancelled := by
  have keeps : driver.Keeps fun _ => True := ⟨fun _ _ _ => trivial,
    fun _ _ _ => trivial⟩
  have kept : ((fun _ => True) (plan runtime options driver snapshot request
        env).2 ∧ (plan runtime options driver snapshot request env).1.outcome ≠
          .cancelled) ∨ driver.Stops (fun _ => True)
            (plan runtime options driver snapshot request env).2 :=
    plan_kept keeps trivial
  rcases kept with held | stopped
  · exact held.2
  · obtain ⟨asked, _, requested⟩ := stopped
    have never := waits asked
    rw [requested] at never
    cases never

/-- A cancellation that is requested from a callback of the observer is honoured
exactly when the undisturbed run polls the token again after that expansion. -/
theorem cancelled_iff_polledAfter {number : Nat} {callbacks : E → Nat} {env : E}
    (requests : driver.RequestsAt number callbacks)
    (fresh : callbacks env = 0) :
    ((plan runtime options driver snapshot request env).1.outcome = .cancelled ∧
        (plan runtime options driver snapshot request env).1.candidates = []) ↔
      PolledAfter number
        (plan runtime options .recording snapshot request []).2 := by
  have start : callbacks env = ([] : List CallerEvent).count .expanded ∧
      ¬ PolledAfter number [] := by
    refine ⟨fresh, ?_⟩
    rintro ⟨before, after, impossible, _⟩
    simp at impossible
  have beside := plan_inStep runtime options snapshot request requests.inStep
    start
  constructor
  · rintro ⟨cancelled, _⟩
    rcases beside with ⟨same, _⟩ | ⟨_, polled⟩
    · rw [same] at cancelled
      exact (plan_ne_cancelled (fun _ => rfl) [] cancelled).elim
    · exact polled
  · intro polled
    rcases beside with ⟨_, _, notYet⟩ | ⟨cancelled, _⟩
    · exact (notYet polled).elim
    · refine ⟨cancelled, ?_⟩
      by_contra some_
      have feasible := plan_ends.feasible_iff.mpr some_
      rw [cancelled] at feasible
      cases feasible

end Requests

/-- A caller that counts the callbacks and requests cancellation in one. -/
def SearchDriver.requestingAt (number : Nat) : SearchDriver Nat where
  isRequested callbacks := (decide (number ≤ callbacks), callbacks)
  observer _ callbacks := callbacks + 1

theorem SearchDriver.requestsAt_requestingAt (number : Nat) :
    (SearchDriver.requestingAt number).RequestsAt number id :=
  ⟨fun _ _ => rfl, fun _ => ⟨rfl, rfl⟩⟩

theorem cancelled_iff_polledAfter_acrossSpan :
    (plan rationalRuntime {} (.requestingAt 1)
        (singleSpan.finished rationalRuntime) acrossSpan 0).1.outcome =
      .cancelled := by
  have events : (plan rationalRuntime {} .recording
      (singleSpan.finished rationalRuntime) acrossSpan []).2 =
        [.polled, .expanded, .polled, .expanded] := by decide +kernel
  refine ((cancelled_iff_polledAfter (SearchDriver.requestsAt_requestingAt 1)
    rfl).mpr ?_).1
  rw [events]
  exact ⟨[.polled, .expanded], [.expanded], rfl, le_rfl⟩

/-- A request from the callback of the last expansion is never seen. -/
theorem lastExpansion_not_cancelled :
    ¬ ∀ number, 1 ≤ number →
      number ≤ (plan rationalRuntime {} .recording
        (singleSpan.finished rationalRuntime) acrossSpan []).2.count .expanded →
      (plan rationalRuntime {} (.requestingAt number)
          (singleSpan.finished rationalRuntime) acrossSpan 0).1.outcome =
        .cancelled ∧
      (plan rationalRuntime {} (.requestingAt number)
          (singleSpan.finished rationalRuntime) acrossSpan 0).1.candidates =
        [] := by
  have expansions : (plan rationalRuntime {} .recording
      (singleSpan.finished rationalRuntime) acrossSpan []).2.count .expanded =
        2 := by decide +kernel
  have feasible : (plan rationalRuntime {} (.requestingAt 2)
      (singleSpan.finished rationalRuntime) acrossSpan 0).1.outcome =
        .feasible := by decide +kernel
  intro honoured
  obtain ⟨cancelled, _⟩ := honoured 2 (by decide) expansions.ge
  rw [feasible] at cancelled
  cases cancelled

end OpticalPathPlanner
