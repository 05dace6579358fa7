import OpticalPathPlanner.Incarnations

/-!
# Instances of the service

Several instances of the service may be started on one state directory.  Each
takes the lock of the directory before it advances the incarnation, and keeps it
until it is destroyed or its process dies.  So the starts of all instances are
one run of starts, and no instance serves beside another.
-/

namespace OpticalPathPlanner

/-! ### Stages under a lock -/

section Locks

variable {Owner Stage : Type} [DecidableEq Owner] {absent : Stage}
  {holder : Option Owner} {stages : Owner → Stage} {owner : Owner} {stage : Stage}

/-- The lock is held by the only owner that is at some stage. -/
def HeldBy (absent : Stage) (holder : Option Owner) (stages : Owner → Stage) : Prop :=
  ∀ owner, stages owner ≠ absent ↔ holder = some owner

omit [DecidableEq Owner] in
theorem HeldBy.alone (held : HeldBy absent holder stages) {other : Owner}
    (isOwner : stages owner ≠ absent) (isOther : stages other ≠ absent) :
    owner = other := by
  have first := (held owner).mp isOwner
  have second := (held other).mp isOther
  exact Option.some.inj (first.symm.trans second)

omit [DecidableEq Owner] in
theorem HeldBy.isNone_iff (held : HeldBy absent holder stages) :
    holder = none ↔ ∀ owner, stages owner = absent := by
  constructor
  · intro free owner
    by_contra busy
    rw [(held owner).mp busy] at free
    cases free
  · intro all
    cases holder with
    | none => rfl
    | some owner => exact absurd (all owner) ((held owner).mpr rfl)

theorem HeldBy.acquire (held : HeldBy absent none stages) (enters : stage ≠ absent) :
    HeldBy absent (some owner) (Function.update stages owner stage) := by
  intro other
  by_cases same : other = owner
  · subst same
    simpa using enters
  · have idle := held.isNone_iff.mp rfl other
    rw [Function.update_of_ne same]
    simp [idle, Ne.symm same]

theorem HeldBy.goOn (held : HeldBy absent holder stages) (busy : stages owner ≠ absent)
    (enters : stage ≠ absent) :
    HeldBy absent holder (Function.update stages owner stage) := by
  intro other
  by_cases same : other = owner
  · subst same
    rw [Function.update_self]
    exact iff_of_true enters ((held other).mp busy)
  · rw [Function.update_of_ne same]
    exact held other

theorem HeldBy.release (held : HeldBy absent holder stages)
    (busy : stages owner ≠ absent) :
    HeldBy absent none (Function.update stages owner absent) := by
  intro other
  refine iff_of_false (not_not.mpr ?_) (by simp)
  by_cases same : other = owner
  · rw [same, Function.update_self]
  · rw [Function.update_of_ne same]
    by_contra at_
    exact same (held.alone at_ busy)

end Locks

/-! ### Instances -/

abbrev InstanceId := Nat

/-- Where an instance is between its start and its end. -/
inductive InstanceStage
  | absent
  /-- It has the lock and advances the incarnation. -/
  | advancing (phase : StartPhase)
  /-- It opens its store, restores its snapshot and begins to listen. -/
  | opening (state : IncarnationState)
  | serving (state : IncarnationState)
  /-- Its start has failed, or its workers were joined. -/
  | ending
deriving DecidableEq, Repr

/-- All instances on a state directory. -/
structure Instances where
  /-- Whose descriptor has the lock. -/
  holder : Option InstanceId := none
  files : Directory
  /-- The incarnations that starts have returned, newest first. -/
  returned : List IncarnationState := []
  stages : InstanceId → InstanceStage := fun _ => .absent

/-- `StateDirectoryLock::Acquire` -/
def acquireLock (held opens : Bool) (holder : Option InstanceId) : Status :=
  if held then failure .internal (text "the state directory lock is already held")
  else if opens = false then
    failure .ioFailure (text "cannot open the state directory lock file")
  else if holder.isSome then
    failure .refused
      (text "another service instance holds the state directory lock")
  else okStatus

/-- What `Service::Start` returns when it does not get as far as the incarnation.
The message is that of a state directory that cannot be created. -/
def startStatus (message : Option Bytes) (opens : Bool) (holder : Option InstanceId) :
    Status :=
  match message with
  | some message => failure .ioFailure
      (text "cannot create the state directory: " ++ message)
  | none => acquireLock false opens holder

inductive InstanceEvent
  | start (owner : InstanceId) (message : Option Bytes) (opens : Bool)
  /-- An operation of `AdvanceIncarnation`. -/
  | advance (owner : InstanceId) (event : StartEvent)
  | open_ (owner : InstanceId) (opened : Bool)
  /-- The service is shut down and its workers are joined, or there is no directory
  to look for the record in. -/
  | finish (owner : InstanceId)
  | release (owner : InstanceId)
  | die (owner : InstanceId)
  /-- Something else makes the record unreadable. -/
  | spoil (bytes : Bytes)

namespace Instances

variable (instances : Instances)

/-- The instance goes on to a stage. -/
def goOn (owner : InstanceId) (stage : InstanceStage) : Instances :=
  { instances with stages := Function.update instances.stages owner stage }

/-- The lock goes with the descriptor of the instance. -/
def leave (owner : InstanceId) : Instances :=
  { instances with
    holder := none
    stages := Function.update instances.stages owner .absent }

def directory (phase : StartPhase) : StateDirectory :=
  ⟨instances.files, phase, instances.returned⟩

/-- The instances on what an operation has made of their directory. -/
def onDirectory (next : StateDirectory) : Instances :=
  { instances with files := next.files, returned := next.returned }

/-- The stage behind an operation of a start. -/
def stageAfter (event : StartEvent) (next : StateDirectory) : InstanceStage :=
  match event, next.returned with
  | .rename, state :: _ => .opening state
  | _, _ => if next.phase = .idle then .ending else .advancing next.phase

/-- The instances after an event, if the event can happen. -/
def after : InstanceEvent → Option Instances
  | .start owner message opens =>
      match instances.stages owner with
      | .absent => some <|
          if (startStatus message opens instances.holder).failed then instances
          else { instances with
            holder := some owner
            stages := Function.update instances.stages owner (.advancing .idle) }
      | _ => none
  | .advance owner event =>
      match instances.stages owner, event with
      | .advancing _, .die => none
      | .advancing _, .spoil _ => none
      | .advancing phase, event =>
          ((instances.directory phase).after event).map fun next =>
            (instances.onDirectory next).goOn owner (stageAfter event next)
      | _, _ => none
  | .open_ owner opened =>
      match instances.stages owner with
      | .opening state => some <| instances.goOn owner
          (if opened then .serving state else .ending)
      | _ => none
  | .finish owner =>
      match instances.stages owner with
      | .serving _ | .advancing .idle => some (instances.goOn owner .ending)
      | _ => none
  | .release owner =>
      match instances.stages owner with
      | .ending => some (instances.leave owner)
      | _ => none
  | .die owner =>
      match instances.stages owner with
      | .absent => none
      | _ => some (instances.leave owner)
  | .spoil bytes =>
      ((instances.directory .idle).after (.spoil bytes)).map fun next =>
        { instances with files := next.files }

def run (events : List InstanceEvent) : Option Instances :=
  events.foldlM after instances

/-! ### One instance at a time -/

/-- The phase of a start at a stage. -/
def phaseAt : InstanceStage → StartPhase
  | .advancing phase => phase
  | _ => .idle

/-- The starts of all instances as those of one process after another. -/
def starts : StateDirectory :=
  instances.directory ((instances.holder.map fun owner =>
    phaseAt (instances.stages owner)).getD .idle)

/-- The lock is held by the only instance there is, and one that has started is
the newest incarnation. -/
structure Exclusive (instances : Instances) : Prop where
  held : HeldBy .absent instances.holder instances.stages
  newest : ∀ owner state, instances.stages owner = .opening state ∨
      instances.stages owner = .serving state →
    instances.returned.head? = some state

variable {instances} {next : Instances} {owner : InstanceId}

theorem Exclusive.fresh (files : Directory) : Exclusive { files := files } where
  held _ := by simp
  newest _ _ started := by simp at started

theorem Exclusive.starts_eq (exclusive : instances.Exclusive)
    (busy : instances.stages owner ≠ .absent) :
    instances.starts = instances.directory (phaseAt (instances.stages owner)) := by
  rw [starts, (exclusive.held owner).mp busy]
  rfl

/-- An instance goes on to a stage, over files and incarnations that only it
changes. -/
theorem Exclusive.goOn (exclusive : instances.Exclusive)
    (busy : instances.stages owner ≠ .absent) (directory : StateDirectory)
    {stage : InstanceStage} (enters : stage ≠ .absent)
    (newest : ∀ state, stage = .opening state ∨ stage = .serving state →
      directory.returned.head? = some state) :
    ((instances.onDirectory directory).goOn owner stage).Exclusive ∧
      ((instances.onDirectory directory).goOn owner stage).starts =
        ⟨directory.files, phaseAt stage, directory.returned⟩ := by
  constructor
  · refine ⟨exclusive.held.goOn busy enters, fun other state started => ?_⟩
    by_cases same : other = owner
    · subst same
      simp only [Instances.goOn, onDirectory, Function.update_self] at started
      exact newest state started
    · simp only [Instances.goOn, onDirectory, Function.update_of_ne same] at started
      have there : instances.stages other ≠ .absent := by
        rcases started with opening | serving
        · simp [opening]
        · simp [serving]
      exact absurd (exclusive.held.alone there busy) same
  · simp [starts, Instances.goOn, onDirectory, Instances.directory,
      (exclusive.held owner).mp busy]

theorem Exclusive.leave (exclusive : instances.Exclusive)
    (busy : instances.stages owner ≠ .absent) :
    (instances.leave owner).Exclusive ∧
      (instances.leave owner).starts = instances.directory .idle := by
  refine ⟨⟨exclusive.held.release busy, fun other state started => ?_⟩, rfl⟩
  have gone := (exclusive.held.release busy).isNone_iff.mp rfl other
  simp only [Instances.leave] at started
  rw [gone] at started
  simp at started

/-- What an operation of a start makes of the instances. -/
theorem advance_eq_some {event : StartEvent}
    (stepped : instances.after (.advance owner event) = some next) :
    ∃ phase directory, instances.stages owner = .advancing phase ∧
      (instances.directory phase).after event = some directory ∧
      next = (instances.onDirectory directory).goOn owner
        (stageAfter event directory) := by
  simp only [Instances.after] at stepped
  cases at_ : instances.stages owner with
  | advancing phase =>
      rw [at_] at stepped
      cases event with
      | die => cases stepped
      | spoil bytes => cases stepped
      | start | read | quarantine | create | write | rename | fail =>
          obtain ⟨directory, happened, rfl⟩ := Option.map_eq_some_iff.mp stepped
          exact ⟨phase, directory, rfl, happened, rfl⟩
  | absent | opening | serving | ending =>
      rw [at_] at stepped
      cases stepped

/-- A start is at the phase of its instance, or it has ended. -/
theorem phaseAt_stageAfter {directory : StateDirectory} {event : StartEvent}
    {before : StateDirectory} (happened : before.after event = some directory) :
    phaseAt (stageAfter event directory) = directory.phase ∧
      stageAfter event directory ≠ .absent ∧
      ∀ state, stageAfter event directory = .opening state ∨
          stageAfter event directory = .serving state →
        directory.returned.head? = some state := by
  have other : stageAfter event directory =
        (if directory.phase = .idle then .ending else .advancing directory.phase) →
      phaseAt (stageAfter event directory) = directory.phase ∧
        stageAfter event directory ≠ .absent ∧
        ∀ state, stageAfter event directory = .opening state ∨
            stageAfter event directory = .serving state →
          directory.returned.head? = some state := by
    intro same
    rw [same]
    split_ifs with idle
    · simp [phaseAt, idle]
    · simp [phaseAt]
  cases event with
  | rename =>
      obtain ⟨files, phase, returned⟩ := before
      cases phase with
      | writing state remaining =>
          obtain _ | _ | ⟨byte, rest⟩ := remaining
          · cases happened
          · cases happened
            simp [stageAfter, phaseAt]
          · cases happened
      | idle | found | unread => cases happened
  | start | read | quarantine | create | write | fail | die | spoil =>
      exact other rfl

theorem spoiled_iff {directory next : StateDirectory} {bytes : Bytes} :
    directory.after (.spoil bytes) = some next ↔
      recordedEpoch (directory.spoil bytes).files = none ∧
        directory.spoil bytes = next := by
  simp only [StateDirectory.after, Option.ite_none_right_eq_some, Option.some.injEq]

/-- The event does not end a start that has moved the record away. -/
def KeepsRecord (instances : Instances) : InstanceEvent → Prop
  | .advance _ event => instances.starts.KeepsRecord event
  | .die _ => instances.starts.KeepsRecord .die
  | _ => True

/-- Instances that start, serve, end and die are one process after another that
starts and dies. -/
theorem Exclusive.after (exclusive : instances.Exclusive) {event : InstanceEvent}
    (stepped : instances.after event = some next) :
    next.Exclusive ∧ (next.starts = instances.starts ∨ ∃ start : StartEvent,
      instances.starts.after start = some next.starts ∧
        (instances.KeepsRecord event → instances.starts.KeepsRecord start)) := by
  cases event with
  | start owner message opens =>
      simp only [Instances.after] at stepped
      cases at_ : instances.stages owner with
      | absent =>
          simp only [at_, Option.some.injEq] at stepped
          subst stepped
          split_ifs with failed
          · exact ⟨exclusive, .inl rfl⟩
          · have free : instances.holder = none := by
              unfold startStatus acquireLock at failed
              cases message with
              | some message => exact absurd rfl failed
              | none =>
                  cases holder : instances.holder with
                  | none => rfl
                  | some other =>
                      cases opens <;> exact absurd rfl (holder ▸ failed)
            have held := exclusive.held
            rw [free] at held
            refine ⟨⟨held.acquire (by simp), fun other state started => ?_⟩, .inl ?_⟩
            · by_cases same : other = owner
              · subst same
                simp at started
              · simp [Function.update_of_ne same, held.isNone_iff.mp rfl other] at started
            · simp [starts, directory, free, phaseAt]
      | advancing | opening | serving | ending =>
          rw [at_] at stepped
          cases stepped
  | advance owner event =>
      obtain ⟨phase, directory, at_, happened, rfl⟩ := advance_eq_some stepped
      have busy : instances.stages owner ≠ .absent := by simp [at_]
      have before : instances.starts = instances.directory phase := by
        rw [exclusive.starts_eq busy, at_]
        rfl
      obtain ⟨samePhase, enters, newest⟩ := phaseAt_stageAfter happened
      obtain ⟨kept, starts⟩ := exclusive.goOn busy directory enters newest
      refine ⟨kept, .inr ⟨event, ?_, fun keeps => keeps⟩⟩
      rw [starts, before, happened, samePhase]
  | open_ owner opened =>
      simp only [Instances.after] at stepped
      cases at_ : instances.stages owner with
      | opening state =>
          simp only [at_, Option.some.injEq] at stepped
          subst stepped
          have busy : instances.stages owner ≠ .absent := by simp [at_]
          have isNewest := exclusive.newest owner state (.inl at_)
          have before := exclusive.starts_eq busy
          rw [at_] at before
          cases opened with
          | true =>
              obtain ⟨kept, starts⟩ := exclusive.goOn busy
                (instances.directory .idle) (by simp : InstanceStage.serving state ≠ .absent)
                (by simpa [directory] using isNewest)
              exact ⟨kept, .inl (starts.trans before.symm)⟩
          | false =>
              obtain ⟨kept, starts⟩ := exclusive.goOn busy
                (instances.directory .idle) (by simp : InstanceStage.ending ≠ .absent) (by simp)
              exact ⟨kept, .inl (starts.trans before.symm)⟩
      | absent | advancing | serving | ending =>
          rw [at_] at stepped
          cases stepped
  | finish owner =>
      simp only [Instances.after] at stepped
      have idle : instances.stages owner ≠ .absent ∧
          phaseAt (instances.stages owner) = .idle ∧
          next = instances.goOn owner .ending := by
        split at stepped
        case h_1 state at_ => simpa [at_, phaseAt] using stepped.symm
        case h_2 at_ => simpa [at_, phaseAt] using stepped.symm
        case h_3 => cases stepped
      obtain ⟨busy, atIdle, rfl⟩ := idle
      have before := exclusive.starts_eq busy
      rw [atIdle] at before
      obtain ⟨kept, starts⟩ := exclusive.goOn busy
        (instances.directory .idle) (by simp : InstanceStage.ending ≠ .absent) (by simp)
      exact ⟨kept, .inl (starts.trans before.symm)⟩
  | release owner =>
      simp only [Instances.after] at stepped
      cases at_ : instances.stages owner with
      | ending =>
          simp only [at_, Option.some.injEq] at stepped
          subst stepped
          have busy : instances.stages owner ≠ .absent := by simp [at_]
          have before := exclusive.starts_eq busy
          rw [at_] at before
          obtain ⟨kept, starts⟩ := exclusive.leave busy
          exact ⟨kept, .inl (starts.trans before.symm)⟩
      | absent | advancing | opening | serving =>
          rw [at_] at stepped
          cases stepped
  | die owner =>
      have busy : instances.stages owner ≠ .absent := by
        intro absent
        simp [Instances.after, absent] at stepped
      have left : next = instances.leave owner := by
        simp only [Instances.after] at stepped
        cases at_ : instances.stages owner with
        | absent => exact absurd at_ busy
        | advancing | opening | serving | ending =>
            exact (Option.some.inj stepped).symm
      subst left
      obtain ⟨kept, starts⟩ := exclusive.leave busy
      refine ⟨kept, .inr ⟨.die, ?_, fun keeps => keeps⟩⟩
      rw [starts]
      rfl
  | spoil bytes =>
      obtain ⟨directory, happened, rfl⟩ := Option.map_eq_some_iff.mp stepped
      refine ⟨⟨exclusive.held, exclusive.newest⟩,
        .inr ⟨.spoil bytes, ?_, fun _ => trivial⟩⟩
      obtain ⟨unreadable, rfl⟩ := spoiled_iff.mp happened
      exact spoiled_iff.mpr ⟨unreadable, rfl⟩

/-! ### Runs -/

/-- Every event of a run keeps the record. -/
def RunKeepsRecord (instances : Instances) : List InstanceEvent → Prop
  | [] => True
  | event :: rest => instances.KeepsRecord event ∧
      ∀ next, instances.after event = some next → next.RunKeepsRecord rest

theorem Exclusive.run {events : List InstanceEvent} (exclusive : instances.Exclusive)
    (ran : instances.run events = some next) :
    next.Exclusive ∧ (instances.starts.Sound → instances.RunKeepsRecord events →
      next.starts.Sound) := by
  induction events generalizing instances with
  | nil =>
      cases ran
      exact ⟨exclusive, fun sound _ => sound⟩
  | cons event rest ih =>
      rw [Instances.run, List.foldlM_cons] at ran
      obtain ⟨middle, stepped, later⟩ := Option.bind_eq_some_iff.mp ran
      obtain ⟨kept, starts⟩ := exclusive.after stepped
      obtain ⟨final, sound⟩ := ih kept later
      refine ⟨final, fun first keeps => sound ?_ (keeps.2 middle stepped)⟩
      rcases starts with same | ⟨start, happened, keepsStart⟩
      · exact same ▸ first
      · exact first.after (keepsStart keeps.1) happened

/-- A second instance is turned away while the first serves, and takes its place
when it has died. -/
def takenOver : List InstanceEvent :=
  List.flatten [
    [.start 1 none true, .advance 1 (.start StateDirectory.firstLaunch)],
    StateDirectory.putRecord.map (.advance 1),
    [.open_ 1 true, .start 2 none true, .die 1, .start 2 none true,
      .advance 2 (.start StateDirectory.firstLaunch), .advance 2 (.read false)],
    StateDirectory.putRecord.map (.advance 2),
    [.open_ 2 true]]

end Instances

end OpticalPathPlanner
