import OpticalPathPlanner.HardConstraints
import OpticalPathPlanner.PlannerOutcomes

/-!
# Accounting for cuts

What a search notes on its way is copied to its outcome at the very end.  A
search that refuses its start label, or that is cancelled, returns before that:
what it noted until then is lost, and an infeasible result without a start label
explains nothing.
-/

namespace OpticalPathPlanner

open SortedRanges Traced

variable {K E : Type}

/-! ### What an outcome accounts for -/

/-- A limitation of no bit says nothing. -/
def Note.Tells : Note → Prop
  | .limitation bits => bits ≠ 0
  | .cut _ | .witness _ => True

/-- Every note appears in the outcome: cuts with their number, limitations with
their bits, and witnesses by reason and resource, unless the cap is reached. -/
structure Accounted (notes : List Note) (outcome : SearchOutcome) : Prop where
  cuts : ∀ reason, .cut reason ∈ notes →
    ⟨reason, notes.countP (Note.isCut reason)⟩ ∈ outcome.cuts
  limitations : ∀ bits, .limitation bits ∈ notes →
    outcome.limitations ||| bits = outcome.limitations
  witnesses : ∀ entry, .witness entry ∈ notes →
    outcome.witnesses.length = kMaxWitnessEntries ∨
      ∃ existing ∈ outcome.witnesses, existing.reason = entry.reason ∧
        existing.resource = entry.resource

theorem accounted_of_silent {notes : List Note} {outcome : SearchOutcome}
    (silent : ∀ note ∈ notes, ¬ note.Tells) : Accounted notes outcome := by
  refine ⟨?_, ?_, ?_⟩
  · intro reason noted
    exact (silent _ noted trivial).elim
  · intro bits noted
    have nothing : bits = 0 := not_not.mp (silent _ noted)
    rw [nothing, Nat.or_zero]
  · intro entry noted
    exact (silent _ noted trivial).elim

/-- An outcome that explains nothing accounts for silent runs only. -/
theorem accounted_iff_silent {notes : List Note} {outcome : SearchOutcome}
    (noCuts : outcome.cuts = []) (noLimitations : outcome.limitations = 0)
    (noWitnesses : outcome.witnesses = []) :
    Accounted notes outcome ↔ ∀ note ∈ notes, ¬ note.Tells := by
  refine ⟨?_, accounted_of_silent⟩
  intro accounted note noted
  cases note with
  | cut reason =>
      have listed := accounted.cuts reason noted
      rw [noCuts] at listed
      cases listed
  | limitation bits =>
      have set_ := accounted.limitations bits noted
      rw [noLimitations, Nat.zero_or] at set_
      exact not_not.mpr set_
  | witness entry =>
      have shown := accounted.witnesses entry noted
      rw [noWitnesses] at shown
      rcases shown with full | ⟨existing, listed, _⟩
      · cases full
      · cases listed

/-! ### The notes of a state -/

theorem mem_cutCounts {notes : List Note} {reason : CutReason}
    (noted : .cut reason ∈ notes) :
    ⟨reason, notes.countP (Note.isCut reason)⟩ ∈ cutCounts notes := by
  have counted : notes.countP (Note.isCut reason) ≠ 0 := by
    refine (List.countP_pos_iff.mpr ⟨_, noted, ?_⟩).ne'
    exact decide_eq_true rfl
  have known : reason ∈ CutReason.all := by cases reason <;> decide
  refine List.mem_filterMap.mpr ⟨reason, known, ?_⟩
  exact if_neg counted

theorem mem_of_any_isCut {notes : List Note} {reason : CutReason}
    (noted : notes.any (Note.isCut reason) = true) : .cut reason ∈ notes := by
  obtain ⟨note, isNoted, isCut⟩ := List.any_eq_true.mp noted
  cases note with
  | cut other =>
      rw [← show other = reason from of_decide_eq_true isCut]
      exact isNoted
  | limitation bits => cases isCut
  | witness entry => cases isCut

theorem noteLimitations_concat (notes : List Note) (note : Note) :
    ∃ more, noteLimitations (notes ++ [note]) = noteLimitations notes ||| more ∧
      ∀ bits, note = .limitation bits → more = bits := by
  unfold noteLimitations
  rw [List.foldl_append]
  cases note with
  | cut reason => exact ⟨0, (Nat.or_zero _).symm, nofun⟩
  | limitation bits =>
      refine ⟨bits, rfl, ?_⟩
      rintro _ ⟨⟩
      rfl
  | witness entry => exact ⟨0, (Nat.or_zero _).symm, nofun⟩

/-- The bits of every noted limitation are set. -/
theorem noteLimitations_or {notes : List Note} {bits : Nat}
    (noted : .limitation bits ∈ notes) :
    noteLimitations notes ||| bits = noteLimitations notes := by
  induction notes using List.reverseRecOn with
  | nil => cases noted
  | append_singleton notes note ih =>
      obtain ⟨more, same, isBits⟩ := noteLimitations_concat notes note
      rw [same]
      rcases List.mem_append.mp noted with before | last
      · rw [Nat.or_right_comm, ih before]
      · rw [isBits bits (List.mem_singleton.mp last).symm, Nat.or_assoc,
          Nat.or_self]

theorem noteWitnesses_concat_cut (notes : List Note) (reason : CutReason) :
    noteWitnesses (notes ++ [.cut reason]) = noteWitnesses notes := by
  rw [noteWitnesses, List.foldl_append]
  rfl

theorem noteWitnesses_concat_limitation (notes : List Note) (bits : Nat) :
    noteWitnesses (notes ++ [.limitation bits]) = noteWitnesses notes := by
  rw [noteWitnesses, List.foldl_append]
  rfl

theorem noteWitnesses_concat_witness (notes : List Note) (entry : Witness) :
    noteWitnesses (notes ++ [.witness entry]) =
      addWitness (noteWitnesses notes) entry := by
  rw [noteWitnesses, List.foldl_append]
  rfl

theorem length_addWitness_le {witnesses : List Witness}
    (within : witnesses.length ≤ kMaxWitnessEntries) (entry : Witness) :
    (addWitness witnesses entry).length ≤ kMaxWitnessEntries := by
  unfold addWitness
  split_ifs with full known
  · exact within
  · exact within
  · rw [List.length_append]
    exact Nat.lt_of_not_le full

/-- Witnesses are never taken back. -/
theorem mem_addWitness {witnesses : List Witness} {entry existing : Witness}
    (listed : existing ∈ witnesses) : existing ∈ addWitness witnesses entry := by
  unfold addWitness
  split_ifs
  · exact listed
  · exact listed
  · exact List.mem_append_left _ listed

theorem addWitness_of_full {witnesses : List Witness}
    (full : witnesses.length = kMaxWitnessEntries) (entry : Witness) :
    addWitness witnesses entry = witnesses :=
  if_pos full.ge

/-- A witness that is added is shown, or there is no room. -/
theorem shown_addWitness {witnesses : List Witness}
    (within : witnesses.length ≤ kMaxWitnessEntries) (entry : Witness) :
    (addWitness witnesses entry).length = kMaxWitnessEntries ∨
      ∃ existing ∈ addWitness witnesses entry, existing.reason = entry.reason ∧
        existing.resource = entry.resource := by
  unfold addWitness
  split_ifs with full known
  · exact .inl (within.antisymm full)
  · obtain ⟨existing, listed, same⟩ := List.any_eq_true.mp known
    rw [Bool.and_eq_true, decide_eq_true_eq, decide_eq_true_eq] at same
    exact .inr ⟨existing, listed, same⟩
  · exact .inr ⟨entry, List.mem_append_right _ (List.mem_singleton.mpr rfl), rfl,
      rfl⟩

theorem length_noteWitnesses_le (notes : List Note) :
    (noteWitnesses notes).length ≤ kMaxWitnessEntries := by
  induction notes using List.reverseRecOn with
  | nil => exact Nat.zero_le _
  | append_singleton notes note ih =>
      cases note with
      | cut reason =>
          rw [noteWitnesses_concat_cut]
          exact ih
      | limitation bits =>
          rw [noteWitnesses_concat_limitation]
          exact ih
      | witness entry =>
          rw [noteWitnesses_concat_witness]
          exact length_addWitness_le ih entry

/-- A noted witness is shown, or the cap was reached. -/
theorem witness_shown {notes : List Note} {entry : Witness}
    (noted : .witness entry ∈ notes) :
    (noteWitnesses notes).length = kMaxWitnessEntries ∨
      ∃ existing ∈ noteWitnesses notes, existing.reason = entry.reason ∧
        existing.resource = entry.resource := by
  induction notes using List.reverseRecOn with
  | nil => cases noted
  | append_singleton notes note ih =>
      rcases List.mem_append.mp noted with before | last
      · cases note with
        | cut reason =>
            rw [noteWitnesses_concat_cut]
            exact ih before
        | limitation bits =>
            rw [noteWitnesses_concat_limitation]
            exact ih before
        | witness other =>
            rw [noteWitnesses_concat_witness]
            rcases ih before with full | ⟨existing, listed, same⟩
            · left
              rw [addWitness_of_full full, full]
            · exact .inr ⟨existing, mem_addWitness listed, same⟩
      · obtain rfl := List.mem_singleton.mp last
        rw [noteWitnesses_concat_witness]
        exact shown_addWitness (length_noteWitnesses_le notes) entry

/-- The outcome of a state accounts for all of its notes. -/
theorem SearchState.accounted (state : SearchState K E)
    (coverageComplete : Bool) :
    Accounted state.notes (state.outcome coverageComplete) := by
  refine ⟨fun reason => mem_cutCounts, ?_, fun entry => witness_shown⟩
  intro bits noted
  change (noteLimitations state.notes ||| _) ||| bits =
    noteLimitations state.notes ||| _
  rw [Nat.or_right_comm, noteLimitations_or noted]

/-! ### Start labels -/

/-- A computation that stops leaves a note of the given kind. -/
def StopsNoting {Note α : Type} (isReason : Note → Prop)
    (computation : Traced Note α) : Prop :=
  computation.result = none → ∃ note ∈ computation.notes, isReason note

section StopsNoting

variable {Note α β : Type} {isReason : Note → Prop}

theorem stopsNoting_pure (value : α) :
    StopsNoting isReason (pure value : Traced Note α) := by
  intro stopped
  cases stopped

theorem StopsNoting.bind {first : Traced Note α} {next : α → Traced Note β}
    (stops : StopsNoting isReason first)
    (later : ∀ value, StopsNoting isReason (next value)) :
    StopsNoting isReason (first >>= next) := by
  change (Traced.bind first next).result = none →
    ∃ note ∈ (Traced.bind first next).notes, isReason note
  unfold Traced.bind
  cases ended : first.result with
  | none => exact fun _ => stops ended
  | some value =>
      intro stopped
      obtain ⟨note, noted, reason⟩ := later value stopped
      exact ⟨note, List.mem_append_right _ noted, reason⟩

theorem stopsNoting_stopIf {condition : Bool} {entry : Note}
    (reason : isReason entry) : StopsNoting isReason (stopIf condition entry) := by
  unfold stopIf
  split_ifs
  · exact fun _ => ⟨entry, List.mem_singleton.mpr rfl, reason⟩
  · intro stopped
    cases stopped

theorem stopsNoting_noteIf (condition : Bool) (entries : List Note) :
    StopsNoting isReason (noteIf condition entries) := by
  intro stopped
  cases stopped

end StopsNoting

def Note.IsCut (note : Note) : Prop :=
  ∃ reason, note = .cut reason

theorem stopsNoting_doubtIf {isReason : Note → Prop} (proven doubtful : Bool)
    (limitation : Nat) (reason : CutReason) (resource : ResourceKey)
    (detail : String) :
    StopsNoting isReason
      (doubtIf proven doubtful limitation reason resource detail) :=
  (stopsNoting_noteIf _ _).bind fun _ => stopsNoting_pure _

section Searches

variable [Field K] [LinearOrder K]

namespace SearchContext

variable (ctx : SearchContext K)

theorem stopsNoting_admitPort (proven : Bool) (portIndex : Nat)
    (reason : CutReason) :
    StopsNoting Note.IsCut (ctx.admitPort proven portIndex reason) := by
  unfold admitPort
  refine (stopsNoting_stopIf ⟨_, rfl⟩).bind fun _ => ?_
  refine (stopsNoting_doubtIf _ _ _ _ _ _).bind fun _ => ?_
  refine (stopsNoting_doubtIf _ _ _ _ _ _).bind fun _ => ?_
  refine (stopsNoting_doubtIf _ _ _ _ _ _).bind fun _ => ?_
  exact stopsNoting_doubtIf _ _ _ _ _ _

/-- A start label is refused for a reason that is noted. -/
theorem stopsNoting_startLabel (portIndex : Nat) :
    StopsNoting Note.IsCut (ctx.startLabel portIndex) := by
  unfold startLabel
  refine (stopsNoting_stopIf ⟨_, rfl⟩).bind fun _ => ?_
  refine (ctx.stopsNoting_admitPort _ _ _).bind fun _ => ?_
  refine (stopsNoting_doubtIf _ _ _ _ _ _).bind fun _ => ?_
  refine (stopsNoting_stopIf ⟨_, rfl⟩).bind fun _ => ?_
  refine (stopsNoting_doubtIf _ _ _ _ _ _).bind fun _ => ?_
  refine (stopsNoting_stopIf ⟨_, rfl⟩).bind fun _ => ?_
  exact stopsNoting_pure _

end SearchContext

/-! ### Searches -/

variable (runtime : Runtime K) (options : PlannerOptions)
  (driver : SearchDriver E) (snapshot : TopologySnapshot K)
  (request : PlanningRequest K) (env : E)

def Progress.notes : Progress K E → List Note
  | .running state | .finished state | .cancelled state => state.notes

/-- Everything that a search notes, from its start label to its last round. -/
def searchNotes : List Note :=
  match snapshot.portIndex request.source,
      snapshot.portIndex request.destination with
  | some startPort, some destinationPort =>
      match (searchContext runtime snapshot request).startState startPort env with
      | none => ((searchContext runtime snapshot request).startLabel
          startPort).notes
      | some state =>
          let setup := searchSetup runtime snapshot request options driver
            destinationPort
          (setup.rounds setup.fuel state).notes
  | _, _ => []

/-- Both endpoints exist, and the source is excluded, is down, transmits no
profile or has no free channel. -/
def StartRefused : Prop :=
  ∃ startPort destinationPort,
    snapshot.portIndex request.source = some startPort ∧
    snapshot.portIndex request.destination = some destinationPort ∧
    ((searchContext runtime snapshot request).startLabel startPort).result = none

/-- No poll finds the token requested after something was noted. -/
def CancelsSilently : Prop :=
  ∀ startPort destinationPort state final,
    snapshot.portIndex request.source = some startPort →
    snapshot.portIndex request.destination = some destinationPort →
    (searchContext runtime snapshot request).startState startPort env =
      some state →
    (searchSetup runtime snapshot request options driver destinationPort).rounds
        (searchSetup runtime snapshot request options driver
          destinationPort).fuel state = .cancelled final →
    ∀ note ∈ final.notes, ¬ note.Tells

variable {runtime options driver snapshot request env}

theorem startState_eq_none_iff {startPort : Nat} :
    (searchContext runtime snapshot request).startState startPort env = none ↔
      ((searchContext runtime snapshot request).startLabel startPort).result =
        none :=
  Option.map_eq_none_iff

/-- A search accounts for its notes exactly when its start label is not refused
and a cancellation comes before the first note. -/
theorem search_accounted_iff :
    Accounted (searchNotes runtime options driver snapshot request env)
        (runSearch runtime snapshot request options driver env).1 ↔
      ¬ StartRefused runtime snapshot request ∧
        CancelsSilently runtime options driver snapshot request env := by
  have absent (missing : ∀ startPort destinationPort,
      snapshot.portIndex request.source = some startPort →
      snapshot.portIndex request.destination = some destinationPort → False) :
      ¬ StartRefused runtime snapshot request ∧
        CancelsSilently runtime options driver snapshot request env := by
    refine ⟨?_, ?_⟩
    · rintro ⟨startPort, destinationPort, source, destination, _⟩
      exact missing startPort destinationPort source destination
    · intro startPort destinationPort _ _ source destination
      exact (missing startPort destinationPort source destination).elim
  cases source : snapshot.portIndex request.source with
  | none =>
      have silent : searchNotes runtime options driver snapshot request env =
          [] := by simp only [searchNotes, source]
      rw [silent]
      refine iff_of_true (accounted_of_silent nofun) (absent ?_)
      intro startPort destinationPort isSource _
      rw [source] at isSource
      cases isSource
  | some startPort =>
      cases destination : snapshot.portIndex request.destination with
      | none =>
          have silent : searchNotes runtime options driver snapshot request env =
              [] := by simp only [searchNotes, source, destination]
          rw [silent]
          refine iff_of_true (accounted_of_silent nofun) (absent ?_)
          intro _ destinationPort _ isDestination
          rw [destination] at isDestination
          cases isDestination
      | some destinationPort =>
          cases started : (searchContext runtime snapshot request).startState
              startPort env with
          | none =>
              have refused := startState_eq_none_iff.mp started
              obtain ⟨note, noted, reason, rfl⟩ := (searchContext runtime snapshot
                request).stopsNoting_startLabel startPort refused
              have outcome : (runSearch runtime snapshot request options driver
                  env).1 = { SearchOutcome.empty with exhausted := true } := by
                simp only [runSearch, source, destination, started]
              have notes : searchNotes runtime options driver snapshot request
                  env = ((searchContext runtime snapshot request).startLabel
                    startPort).notes := by
                simp only [searchNotes, source, destination, started]
              rw [outcome, notes, accounted_iff_silent rfl rfl rfl]
              refine iff_of_false (fun silent => silent _ noted trivial) ?_
              rintro ⟨notRefused, _⟩
              exact notRefused
                ⟨startPort, destinationPort, source, destination, refused⟩
          | some state =>
              have notRefused : ¬ StartRefused runtime snapshot request := by
                rintro ⟨_, _, isSource, _, refused⟩
                cases source.symm.trans isSource
                rw [startState_eq_none_iff.mpr refused] at started
                cases started
              have begins : (searchSetup runtime snapshot request options driver
                  destinationPort).startState startPort env = some state := started
              obtain ⟨invariant, enough⟩ := SearchSetup.invariant_startState begins
              rw [and_iff_right notRefused]
              rcases invariant.rounds_end enough with
                ⟨final, settled, pending, ran, ended⟩ | ⟨final, asked, ran, _⟩
              · have outcome : (runSearch runtime snapshot request options driver
                    env).1 = final.outcome snapshot.coverageComplete := by
                  simp only [runSearch, source, destination, started, ran]
                have notes : searchNotes runtime options driver snapshot request
                    env = final.notes := by
                  simp only [searchNotes, source, destination, started, ran,
                    Progress.notes]
                rw [outcome, notes]
                refine iff_of_true (final.accounted _) ?_
                intro _ _ _ _ isSource isDestination isState cancelled
                cases source.symm.trans isSource
                cases destination.symm.trans isDestination
                cases started.symm.trans isState
                cases ran.symm.trans cancelled
              · have outcome : (runSearch runtime snapshot request options driver
                    env).1 = { SearchOutcome.empty with
                      status := failure .cancelled
                        (text "the caller cancelled the search")
                      statistics := final.statistics } := by
                  simp only [runSearch, source, destination, started, ran]
                have notes : searchNotes runtime options driver snapshot request
                    env = final.notes := by
                  simp only [searchNotes, source, destination, started, ran,
                    Progress.notes]
                rw [outcome, notes, accounted_iff_silent rfl rfl rfl]
                constructor
                · intro silent _ _ _ _ isSource isDestination isState cancelled
                  cases source.symm.trans isSource
                  cases destination.symm.trans isDestination
                  cases started.symm.trans isState
                  cases ran.symm.trans cancelled
                  exact silent
                · intro silent
                  exact silent startPort destinationPort state final source
                    destination started ran

/-! ### Infeasible results -/

/-- An infeasible search result comes from a first pass that built nothing. -/
theorem firstPass_of_infeasible
    (searching : earlyOutcome snapshot request = none)
    (infeasible : (plan runtime options driver snapshot request env).1.outcome =
      .infeasible) :
    (firstSearch runtime options driver snapshot request env).status.failed =
        false ∧
      ∃ unproven, firstPlans runtime options driver snapshot request env =
        .ok ([], unproven) := by
  have ends : PlanEnds runtime options driver snapshot request env
      (plan runtime options driver snapshot request env) := plan_ends
  generalize plan runtime options driver snapshot request env = run
    at ends infeasible
  cases ends with
  | early ends =>
      rw [searching] at ends
      cases ends
  | failed _ failed => exact (failed.outcome.outcome_ne.2 infeasible).elim
  | unplanned _ succeeded built _ _ _ => exact ⟨succeeded, _, built⟩
  | planned _ _ _ _ _ _ outcome _ =>
      rw [outcome] at infeasible
      cases infeasible

omit [Field K] [LinearOrder K] in
theorem withoutPlan_cuts (search : SearchOutcome) (unproven : Bool)
    (state : PassState K E) :
    (classify snapshot request
      (state.withoutPlan snapshot search unproven)).cuts = state.result.cuts := by
  have kept : (state.withoutPlan snapshot search unproven).result.cuts =
      state.result.cuts := by
    unfold PassState.withoutPlan
    split_ifs <;> rfl
  unfold classify
  dsimp only
  split_ifs <;> exact kept

/-- Its cuts are the ones of the first search. -/
theorem cuts_of_infeasible
    (searching : earlyOutcome snapshot request = none)
    (infeasible : (plan runtime options driver snapshot request env).1.outcome =
      .infeasible) :
    (plan runtime options driver snapshot request env).1.cuts =
      runtime.routine.sortBy (fun cut => cut.reason.number)
        ((firstSearch runtime options driver snapshot request
          env).cuts.foldl mergeCut []) := by
  obtain ⟨succeeded, unproven, built⟩ :=
    firstPass_of_infeasible searching infeasible
  have valid := requestOutcome_eq_none_iff.mp
    (earlyOutcome_eq_none_iff.mp searching).1
  obtain ⟨later, passes⟩ : ∃ later,
      (if request.iterative then request.maxCandidates else 1) = later + 1 := by
    refine Nat.exists_eq_add_of_le' ?_
    split_ifs
    · exact Nat.pos_of_ne_zero valid.candidates_pos
    · exact le_rfl
  have noPlans : runtime.routine.sort planLess ([] : List (PlanArtifact K)) =
      [] := List.perm_nil.mp (runtime.routine.perm _ _)
  have ended : runPass runtime options driver snapshot request 0
      (startPasses runtime snapshot request env) =
        .stop ((firstState runtime options driver snapshot request
          env).withoutPlan snapshot (firstSearch runtime options driver snapshot
            request env) unproven) := by
    rw [runPass_zero valid]
    unfold firstPlans at built
    have digest : (firstState runtime options driver snapshot request
        env).result.requestDigest = runtime.computeRequestDigest request := rfl
    simp only [afterSearch, succeeded, Bool.false_eq_true, if_false, digest, built,
      noPlans]
  unfold plan
  simp only [searching, passes, runPasses, ended, finishPasses]
  change runtime.routine.sortBy _ (classify snapshot request _).cuts = _
  rw [withoutPlan_cuts]
  rfl

theorem mergeCut_ne_nil (cuts : List CutCount) (cut : CutCount) :
    mergeCut cuts cut ≠ [] := by
  unfold mergeCut
  split_ifs with known
  · obtain ⟨existing, listed, _⟩ := List.any_eq_true.mp known
    exact List.ne_nil_of_mem (List.mem_map_of_mem listed)
  · simp

theorem foldl_mergeCut_eq_nil_iff {cuts : List CutCount} :
    cuts.foldl mergeCut [] = [] ↔ cuts = [] := by
  induction cuts using List.reverseRecOn with
  | nil => exact iff_of_true rfl rfl
  | append_singleton cuts cut ih =>
      rw [List.foldl_append]
      exact iff_of_false (mergeCut_ne_nil _ _) (by simp)

omit [Field K] [LinearOrder K] in
theorem sortBy_eq_nil_iff {routine : SortRoutine} {key : CutCount → Nat}
    {cuts : List CutCount} : routine.sortBy key cuts = [] ↔ cuts = [] := by
  constructor
  · intro empty
    have same : (routine.sortBy key cuts).Perm cuts := routine.perm _ _
    rw [empty] at same
    exact List.nil_perm.mp same
  · rintro rfl
    exact List.perm_nil.mp (routine.perm _ _)

theorem startRefused_working :
    StartRefused runtime snapshot (request.working runtime {}) ↔
      StartRefused runtime snapshot request := by
  unfold StartRefused searchContext
  rw [working_source, working_destination, working_empty_toRouteRules]

theorem cancelsSilently_of_succeeded
    (succeeded : (runSearch runtime snapshot request options driver
      env).1.status.failed = false) :
    CancelsSilently runtime options driver snapshot request env := by
  intro startPort destinationPort state final source destination started cancelled
  have failed : (runSearch runtime snapshot request options driver
      env).1.status.failed = true := by
    simp only [runSearch, source, destination, started, cancelled]
    rfl
  rw [failed] at succeeded
  cases succeeded

theorem cuts_of_startRefused (refused : StartRefused runtime snapshot request) :
    (runSearch runtime snapshot request options driver env).1.cuts = [] := by
  obtain ⟨startPort, destinationPort, source, destination, noStart⟩ := refused
  have started : (searchContext runtime snapshot request).startState startPort env =
      none :=
    startState_eq_none_iff.mpr noStart
  simp only [runSearch, source, destination, started]
  rfl

variable (runtime options driver snapshot request env) in
/-- A search accounts for its notes exactly when its start label is not refused
and a cancellation comes before the first note; and an infeasible result between
present endpoints, whose search noted a cut, reports one exactly when the start
label is not refused. -/
theorem cuts_accounted_iff :
    (Accounted (searchNotes runtime options driver snapshot request env)
        (runSearch runtime snapshot request options driver env).1 ↔
      ¬ StartRefused runtime snapshot request ∧
        CancelsSilently runtime options driver snapshot request env) ∧
    (earlyOutcome snapshot request = none →
      (plan runtime options driver snapshot request env).1.outcome =
        .infeasible →
      (∃ reason, .cut reason ∈ searchNotes runtime options driver snapshot
        (request.working runtime {}) env) →
      ((plan runtime options driver snapshot request env).1.cuts ≠ [] ↔
        ¬ StartRefused runtime snapshot request)) := by
  refine ⟨search_accounted_iff, ?_⟩
  rintro searching infeasible ⟨reason, noted⟩
  obtain ⟨succeeded, _⟩ := firstPass_of_infeasible searching infeasible
  rw [cuts_of_infeasible searching infeasible, ne_eq, sortBy_eq_nil_iff,
    foldl_mergeCut_eq_nil_iff, ← startRefused_working]
  constructor
  · intro reported refused
    exact reported (cuts_of_startRefused refused)
  · intro notRefused unreported
    have accounted := search_accounted_iff.mpr
      ⟨notRefused, cancelsSilently_of_succeeded succeeded⟩
    have listed := accounted.cuts reason noted
    rw [show (runSearch runtime snapshot (request.working runtime {}) options
      driver env).1.cuts = [] from unreported] at listed
    cases listed

end Searches

/-- A request across the single span, with some resources excluded. -/
def acrossSpanWithout (ports : List PortKey) (spans : List SpanId) :
    PlanningRequest ℚ :=
  { acrossSpan with
    constraints := { excludedPorts := ports, excludedSpans := spans } }

theorem cuts_accounted_iff_withoutSpan :
    (singleSpan.planned (acrossSpanWithout [] [⟨text "ab"⟩])).cuts ≠ [] := by
  have started : (((singleSpan.finished rationalRuntime).portIndex
      (acrossSpanWithout [] [⟨text "ab"⟩]).source).bind fun port =>
        ((searchContext rationalRuntime (singleSpan.finished rationalRuntime)
          (acrossSpanWithout [] [⟨text "ab"⟩])).startLabel port).result).isSome =
            true := by decide +kernel
  have searching : earlyOutcome (singleSpan.finished rationalRuntime)
      (acrossSpanWithout [] [⟨text "ab"⟩]) = none := by decide +kernel
  have infeasible : (singleSpan.planned
      (acrossSpanWithout [] [⟨text "ab"⟩])).outcome = .infeasible := by
    decide +kernel
  have noted : ((searchNotes rationalRuntime {} .idle
      (singleSpan.finished rationalRuntime) ((acrossSpanWithout []
        [⟨text "ab"⟩]).working rationalRuntime {}) ()).any
          (Note.isCut .spanExcluded)) = true := by decide +kernel
  rw [SnapshotBuilder.planned] at infeasible ⊢
  refine ((cuts_accounted_iff rationalRuntime {} .idle (singleSpan.finished
    rationalRuntime) (acrossSpanWithout [] [⟨text "ab"⟩]) ()).2 searching
      infeasible ⟨_, mem_of_any_isCut noted⟩).mpr ?_
  rintro ⟨startPort, _, source, _, refused⟩
  rw [source, Option.bind_some, refused] at started
  cases started

/-- A search that refuses its start label loses the cut that refused it, and the
infeasible result explains nothing. -/
theorem excludedSource_unexplained :
    (singleSpan.planned (acrossSpanWithout [.of "a" "1"] [])).outcome =
        .infeasible ∧
      (singleSpan.planned (acrossSpanWithout [.of "a" "1"] [])).cuts = [] ∧
      ¬ Accounted
        (searchNotes rationalRuntime {} .idle
          (singleSpan.finished rationalRuntime)
          (acrossSpanWithout [.of "a" "1"] []) ())
        (runSearch rationalRuntime (singleSpan.finished rationalRuntime)
          (acrossSpanWithout [.of "a" "1"] []) {} .idle ()).1 := by
  have noted : ((searchNotes rationalRuntime {} .idle
      (singleSpan.finished rationalRuntime)
      (acrossSpanWithout [.of "a" "1"] []) ()).any
        (Note.isCut .portExcluded)) = true := by decide +kernel
  have unreported : (runSearch rationalRuntime (singleSpan.finished
      rationalRuntime) (acrossSpanWithout [.of "a" "1"] []) {} .idle ()).1.cuts =
        [] := by decide +kernel
  refine ⟨by decide +kernel, by decide +kernel, fun accounted => ?_⟩
  have listed := accounted.cuts _ (mem_of_any_isCut noted)
  rw [unreported] at listed
  cases listed

end OpticalPathPlanner
