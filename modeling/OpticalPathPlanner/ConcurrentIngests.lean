import OpticalPathPlanner.CanonicalSnapshots
import OpticalPathPlanner.ServiceRuns
import OpticalPathPlanner.ServiceWorkers

/-!
# Ingesting from several connections

A snapshot is persisted before the lock is taken under which it is installed,
and every worker writes to the same temporary file.  The snapshot in memory and
the one on disk agree as long as no worker opens the temporary file while another
one writes it, and no worker installs its snapshot once the worker that renamed
last has installed its own.
-/

namespace OpticalPathPlanner

open WorkingService (textOf)

/-! ### Files -/

namespace SnapshotFiles

variable {files : SnapshotFiles}

theorem opened_ne_file {inode : Inode} (named : files.file = some inode) :
    inode ≠ files.opened := by
  have below := files.file_lt inode named
  have other := files.distinct inode named
  unfold opened
  cases temporary : files.temporary with
  | none => exact below.ne
  | some held =>
      rintro rfl
      exact other temporary

theorem read_create : files.create.read = files.read := by
  unfold read
  cases named : files.file with
  | none => simp [create, named]
  | some inode =>
      simp [create, named, Function.update_of_ne (opened_ne_file named)]

/-- Writing the temporary file leaves the snapshot file alone. -/
theorem read_write {inode : Inode} (temporary : files.temporary = some inode)
    (offset : Nat) (bytes : Bytes) :
    (files.write inode offset bytes).read = files.read := by
  unfold read
  cases named : files.file with
  | none => simp [write, named]
  | some held =>
      have differ : held ≠ inode := by
        rintro rfl
        exact files.distinct held named temporary
      simp [write, named, Function.update_of_ne differ]

theorem read_rename {inode : Inode} (temporary : files.temporary = some inode) :
    files.rename.read = some (files.content inode) := by
  simp [read, rename, temporary]

end SnapshotFiles

/-- The next bytes of a text behind those that were written. -/
theorem overwrite_take {content : Bytes} {written count : Nat}
    (within : written ≤ content.length) :
    overwrite (content.take written) written ((content.drop written).take count) =
      content.take (written + count) := by
  have length : (content.take written).length = written := by simpa using within
  have front : (content.take written).take written = content.take written := by simp
  have back : (content.take written).drop
      (written + ((content.drop written).take count).length) = [] :=
    List.drop_eq_nil_of_le (by omega)
  rw [overwrite, front, back, length, Nat.sub_self, List.take_add]
  simp

/-! ### Ingests -/

section Ingests

variable {K : Type} [Field K] [LinearOrder K] {runtime : Runtime K}
  (numbers : DoubleText runtime.formatDouble) (options : ServiceOptions)

/-- The frame asks for this snapshot to be ingested. -/
def Ingests (frame : Frame) (snapshot : TopologySnapshot K) : Prop :=
  frame.kind = RequestKind.ingest.message ∧
    ServiceState.ingestedFrom numbers frame.payload = some snapshot

/-- One of the events hands the snapshot to a worker. -/
def Ingested (events : List WorkerEvent) (snapshot : TopologySnapshot K) : Prop :=
  ∃ handle faults frame, WorkerEvent.receive handle faults frame ∈ events ∧
    Ingests numbers frame snapshot

omit [Field K] [LinearOrder K] in
def Work.isWriting : Work K → Bool
  | .writing _ _ _ => true
  | _ => false

omit [Field K] [LinearOrder K] in
/-- The snapshot that a task is about to persist or to install. -/
def Work.ingesting : Work K → Option (TopologySnapshot K)
  | .creating snapshot => some snapshot
  | .writing snapshot _ _ => some snapshot
  | .installing snapshot _ => some snapshot
  | _ => none

omit [Field K] [LinearOrder K] in
/-- The file that a task is about to install the snapshot of. -/
def Work.installs : Work K → Option Inode
  | .installing _ inode => inode
  | _ => none

/-- The worker that an event is about. -/
def WorkerEvent.handle : WorkerEvent → SocketHandle
  | .receive handle _ _ => handle
  | .work handle _ => handle

namespace WorkingService

/-- The snapshot file is read as a snapshot with the digest of the one in
memory. -/
def Agrees (working : WorkingService K) : Prop :=
  ∀ snapshot, working.service.snapshot = some snapshot →
    ∃ content persisted, working.files.read = some content ∧
      parseSnapshotText numbers content = .ok persisted ∧
      persisted.digest = snapshot.digest

/-- A worker that has renamed last has yet to install its snapshot. -/
def Pending (working : WorkingService K) : Prop :=
  ∃ handle task, working.tasks handle = some task ∧
    task.work.installs.isSome ∧ task.work.installs = working.files.file

/-- Every ingest was acknowledged or refused. -/
def Quiet (working : WorkingService K) : Prop :=
  ∀ handle task, working.tasks handle = some task → task.work.ingesting = none

/-- The snapshot file is as it was or holds all of an ingested snapshot, and once
all ingests are answered it agrees with the memory. -/
structure Persistent (start : WorkingService K) (events : List WorkerEvent)
    (working : WorkingService K) : Prop where
  file : working.files.read = start.files.read ∨ ∃ snapshot,
    Ingested numbers events snapshot ∧
      working.files.read = some (textOf runtime snapshot)
  agrees : working.Quiet → working.Agrees numbers

/-- What the workers leave alone, as the code does not make them: the temporary
file while another one writes it, and the memory once the worker that renamed
last has installed its snapshot.  An ingested snapshot fits in a file. -/
def Considerate (working : WorkingService K) : WorkerEvent → Prop
  | .receive _ _ frame => ∀ snapshot, Ingests numbers frame snapshot →
      (textOf runtime snapshot).length ≤ kMaxSnapshotTextBytes
  | .work handle .create => ∀ other task, other ≠ handle →
      working.tasks other = some task → task.work.isWriting = false
  | .work handle .install => ∀ task, working.tasks handle = some task →
      task.work.installs = working.files.file ∨ working.Pending
  | _ => True

/-- Every event of the run is considerate in the state before it. -/
def AllConsiderate (working : WorkingService K) : List WorkerEvent → Prop
  | [] => True
  | event :: rest => working.Considerate numbers event ∧
      ∀ next, working.after numbers options event = some next →
        next.AllConsiderate rest

/-! ### Steps -/

/-- What holds of the files as long as a worker is at its task. -/
structure TaskSound (events : List WorkerEvent) (files : SnapshotFiles)
    (work : Work K) : Prop where
  ingested : ∀ snapshot, work.ingesting = some snapshot →
    Ingested numbers events snapshot ∧
      (textOf runtime snapshot).length ≤ kMaxSnapshotTextBytes
  written : ∀ snapshot inode written, work = .writing snapshot inode written →
    files.temporary = some inode ∧ written ≤ (textOf runtime snapshot).length ∧
      files.content inode = (textOf runtime snapshot).take written
  renamed : ∀ snapshot installed, work = .installing snapshot installed →
    ∃ inode, installed = some inode ∧ inode < files.free ∧
      files.temporary ≠ some inode ∧ (files.file = some inode →
        files.content inode = textOf runtime snapshot)

/-- What holds between considerate steps. -/
structure Persisting (start : WorkingService K) (events : List WorkerEvent)
    (working : WorkingService K) : Prop where
  tasks : ∀ handle task, working.tasks handle = some task →
    TaskSound numbers events working.files task.work
  alone : ∀ first second task other, working.tasks first = some task →
    working.tasks second = some other → task.work.isWriting = true →
      other.work.isWriting = true → first = second
  file : working.files.read = start.files.read ∨ ∃ snapshot,
    Ingested numbers events snapshot ∧
      working.files.read = some (textOf runtime snapshot)
  agrees : working.Pending ∨ working.Agrees numbers

variable {numbers options} {start working next : WorkingService K}
  {events : List WorkerEvent}

omit [Field K] [LinearOrder K] in
theorem installs_eq_some {work : Work K} {inode : Inode}
    (installs : work.installs = some inode) :
    ∃ snapshot, work = .installing snapshot (some inode) := by
  cases work <;> simp_all [Work.installs]

theorem Persisting.persistent (persisting : Persisting numbers start events working) :
    Persistent numbers start events working := by
  refine ⟨persisting.file, fun quiet => persisting.agrees.resolve_left ?_⟩
  rintro ⟨handle, task, busy, installs, -⟩
  obtain ⟨inode, same⟩ := Option.isSome_iff_exists.mp installs
  obtain ⟨snapshot, work⟩ := installs_eq_some same
  have none_ := quiet handle task busy
  rw [work] at none_
  cases none_

/-- Files that a renamed file survives. -/
structure KeepsRenamed (files next : SnapshotFiles) : Prop where
  free : files.free ≤ next.free
  temporary : ∀ inode, inode < files.free → files.temporary ≠ some inode →
    next.temporary ≠ some inode
  content : ∀ inode, files.temporary ≠ some inode → inode < files.free →
    next.file = some inode →
      files.file = some inode ∧ next.content inode = files.content inode

theorem keepsRenamed_create (files : SnapshotFiles) :
    KeepsRenamed files files.create := by
  have differ {inode : Inode} (below : inode < files.free)
      (other : files.temporary ≠ some inode) : inode ≠ files.opened := by
    unfold SnapshotFiles.opened
    cases temporary : files.temporary with
    | none => exact below.ne
    | some held =>
        rintro rfl
        exact other temporary
  refine ⟨le_max_left _ _, fun inode below other same => ?_,
    fun inode other below named => ⟨named, ?_⟩⟩
  · exact differ below other (Option.some.inj same).symm
  · exact Function.update_of_ne (differ below other) _ _

theorem keepsRenamed_write {files : SnapshotFiles} {inode : Inode}
    (temporary : files.temporary = some inode) (offset : Nat) (bytes : Bytes) :
    KeepsRenamed files (files.write inode offset bytes) := by
  refine ⟨le_rfl, fun _ _ other => other, fun held other _ named => ⟨named, ?_⟩⟩
  have differ : held ≠ inode := by
    rintro rfl
    exact other temporary
  exact Function.update_of_ne differ _ _

theorem keepsRenamed_rename {files : SnapshotFiles} {inode : Inode}
    (temporary : files.temporary = some inode) :
    KeepsRenamed files files.rename := by
  refine ⟨le_rfl, fun _ _ _ => by simp [SnapshotFiles.rename],
    fun held other _ named => ?_⟩
  simp only [SnapshotFiles.rename, temporary] at named
  exact (other (temporary.trans named)).elim

theorem keepsRenamed_remove (files : SnapshotFiles) :
    KeepsRenamed files files.remove :=
  ⟨le_rfl, fun _ _ _ => by simp [SnapshotFiles.remove],
    fun _ _ _ named => ⟨named, rfl⟩⟩

/-- A task that does not write is sound with the new files, and stays so. -/
theorem TaskSound.withFiles {files changed : SnapshotFiles} {work : Work K}
    (sound : TaskSound numbers events files work)
    (idle : work.isWriting = false) (keeps : KeepsRenamed files changed) :
    TaskSound numbers events changed work := by
  refine ⟨sound.ingested, ?_, ?_⟩
  · rintro snapshot inode written rfl
    cases idle
  · intro snapshot installed same
    obtain ⟨inode, installed, below, other, content⟩ :=
      sound.renamed snapshot installed same
    refine ⟨inode, installed, below.trans_le keeps.free,
      keeps.temporary inode below other, fun named => ?_⟩
    obtain ⟨before, unchanged⟩ := keeps.content inode other below named
    exact unchanged.trans (content before)

/-- A task that ingests nothing has nothing to do with the files. -/
theorem TaskSound.of_ingesting_none {files : SnapshotFiles} {work : Work K}
    (none_ : work.ingesting = none) :
    TaskSound numbers events files work ∧ work.isWriting = false := by
  refine ⟨⟨?_, ?_, ?_⟩, ?_⟩
  · intro snapshot ingesting
    rw [none_] at ingesting
    cases ingesting
  · rintro snapshot inode written rfl
    cases none_
  · rintro snapshot installed rfl
    cases none_
  · cases work with
    | writing snapshot inode written => cases none_
    | creating | installing | searching | storing => rfl

theorem TaskSound.later {files : SnapshotFiles} {work : Work K}
    (sound : TaskSound numbers events files work) (more : List WorkerEvent) :
    TaskSound numbers (events ++ more) files work := by
  refine ⟨fun snapshot ingesting => ?_, sound.written, sound.renamed⟩
  obtain ⟨⟨handle, faults, frame, received, ingests⟩, fits⟩ :=
    sound.ingested snapshot ingesting
  exact ⟨⟨handle, faults, frame, List.mem_append_left _ received, ingests⟩, fits⟩

theorem Persisting.later (persisting : Persisting numbers start events working)
    (more : List WorkerEvent) :
    Persisting numbers start (events ++ more) working := by
  refine ⟨fun handle task busy => (persisting.tasks handle task busy).later more,
    persisting.alone, persisting.file.imp_right ?_, persisting.agrees⟩
  rintro ⟨snapshot, ⟨handle, faults, frame, received, ingests⟩, read⟩
  exact ⟨snapshot,
    ⟨handle, faults, frame, List.mem_append_left _ received, ingests⟩, read⟩

omit [Field K] [LinearOrder K] in
theorem forall_tasks_update {holds : SocketHandle → Task K → Prop}
    {tasks : SocketHandle → Option (Task K)} {handle : SocketHandle}
    {task : Option (Task K)}
    (others : ∀ other found, other ≠ handle → tasks other = some found →
      holds other found)
    (own : ∀ found, task = some found → holds handle found) :
    ∀ other found, Function.update tasks handle task other = some found →
      holds other found := by
  intro other found busy
  by_cases same : other = handle
  · subst same
    rw [Function.update_self] at busy
    exact own found busy
  · rw [Function.update_of_ne same] at busy
    exact others other found same busy

/-- No other worker writes the temporary file. -/
def Alone (working : WorkingService K) (handle : SocketHandle) : Prop :=
  ∀ other task, other ≠ handle → working.tasks other = some task →
    task.work.isWriting = false

theorem Persisting.alone_of_writing
    (persisting : Persisting numbers start events working) {handle : SocketHandle}
    {task : Task K} (busy : working.tasks handle = some task)
    (writes : task.work.isWriting = true) : working.Alone handle := by
  intro other found differ isBusy
  by_contra writesToo
  exact differ (persisting.alone other handle found task isBusy busy
    (by simpa using writesToo) writes)

/-- One worker goes on to another task, or to none, and the files change. -/
theorem Persisting.update (persisting : Persisting numbers start events working)
    {handle : SocketHandle} {task : Option (Task K)}
    (tasks : next.tasks = Function.update working.tasks handle task)
    (files : next.files = working.files ∨
      (KeepsRenamed working.files next.files ∧ working.Alone handle))
    (own : ∀ found, task = some found →
      TaskSound numbers events next.files found.work ∧
        (found.work.isWriting = true → working.Alone handle))
    (file : next.files.read = working.files.read ∨ ∃ snapshot,
      Ingested numbers events snapshot ∧
        next.files.read = some (textOf runtime snapshot))
    (agrees : next.Pending ∨ next.Agrees numbers) :
    Persisting numbers start events next := by
  constructor
  case tasks =>
    rw [tasks]
    refine forall_tasks_update (fun other found differ busy => ?_)
      fun found same => (own found same).1
    have sound := persisting.tasks other found busy
    rcases files with same | ⟨keeps, alone⟩
    · exact same ▸ sound
    · exact sound.withFiles (alone other found differ busy) keeps
  case alone =>
    intro first second foundFirst foundSecond isFirst isSecond writes writesToo
    rw [tasks] at isFirst isSecond
    by_cases firstOwn : first = handle <;> by_cases secondOwn : second = handle
    · exact firstOwn.trans secondOwn.symm
    · rw [firstOwn, Function.update_self] at isFirst
      rw [Function.update_of_ne secondOwn] at isSecond
      have idle := (own _ isFirst).2 writes second _ secondOwn isSecond
      exact absurd writesToo (by simp [idle])
    · rw [Function.update_of_ne firstOwn] at isFirst
      rw [secondOwn, Function.update_self] at isSecond
      have idle := (own _ isSecond).2 writesToo first _ firstOwn isFirst
      exact absurd writes (by simp [idle])
    · rw [Function.update_of_ne firstOwn] at isFirst
      rw [Function.update_of_ne secondOwn] at isSecond
      exact persisting.alone first second _ _ isFirst isSecond writes writesToo
  case file =>
    rcases file with same | ingested
    · exact same ▸ persisting.file
    · exact .inr ingested
  case agrees => exact agrees

omit [LinearOrder K] [Field K] in
/-- Whoever is pending stays so while another worker steps. -/
theorem Pending.update (pending : working.Pending) {handle : SocketHandle}
    {task : Option (Task K)}
    (tasks : next.tasks = Function.update working.tasks handle task)
    (file : next.files.file = working.files.file)
    (other : ∀ found, working.tasks handle = some found →
      found.work.installs.isSome → found.work.installs ≠ working.files.file) :
    next.Pending := by
  obtain ⟨holder, found, busy, installs, last⟩ := pending
  have differ : holder ≠ handle := by
    rintro rfl
    exact other found busy installs last
  refine ⟨holder, found, ?_, installs, last.trans file.symm⟩
  rw [tasks, Function.update_of_ne differ]
  exact busy

/-- The file and the memory stay as they are. -/
theorem Persisting.agrees_unchanged
    (persisting : Persisting numbers start events working) {handle : SocketHandle}
    {task : Option (Task K)}
    (tasks : next.tasks = Function.update working.tasks handle task)
    (file : next.files.file = working.files.file)
    (read : next.files.read = working.files.read)
    (memory : next.service.snapshot = working.service.snapshot)
    (other : ∀ found, working.tasks handle = some found →
      found.work.installs = none) : next.Pending ∨ next.Agrees numbers := by
  refine persisting.agrees.imp (fun pending => ?_) fun agrees => ?_
  · refine pending.update tasks file fun found busy installs => ?_
    rw [other found busy] at installs
    cases installs
  · intro snapshot held
    rw [memory] at held
    rw [read]
    exact agrees snapshot held

omit [Field K] [LinearOrder K] in
theorem countAnswer_snapshot (state : ServiceState K) (reply : Frame) :
    (state.countAnswer reply).snapshot = state.snapshot := by
  unfold ServiceState.countAnswer
  split_ifs <;> rfl

/-- A step that touches neither the files nor the memory. -/
theorem Persisting.idle (persisting : Persisting numbers start events working)
    {handle : SocketHandle} {task : Option (Task K)}
    (tasks : next.tasks = Function.update working.tasks handle task)
    (files : next.files = working.files)
    (memory : next.service.snapshot = working.service.snapshot)
    (before : ∀ found, working.tasks handle = some found →
      found.work.installs = none)
    (after : ∀ found, task = some found →
      TaskSound numbers events working.files found.work ∧
        found.work.isWriting = false) :
    Persisting numbers start events next := by
  refine persisting.update tasks (.inl files) (fun found same => ?_) (.inl ?_)
    (persisting.agrees_unchanged tasks ?_ ?_ memory before)
  · obtain ⟨sound, idle⟩ := after found same
    exact ⟨files ▸ sound, by simp [idle]⟩
  all_goals rw [files]

/-- What was ingested is read back from the file it fills. -/
theorem reread_of_ingested {snapshot : TopologySnapshot K}
    (ingested : Ingested numbers events snapshot)
    (fits : (textOf runtime snapshot).length ≤ kMaxSnapshotTextBytes) :
    ∃ persisted, parseSnapshotText numbers (textOf runtime snapshot) =
      .ok persisted ∧ persisted.digest = snapshot.digest := by
  obtain ⟨handle, faults, frame, -, -, found⟩ := ingested
  obtain ⟨message, decoded, read⟩ := Option.bind_eq_some_iff.mp found
  have read := toOption_eq_some_iff.mp read
  unfold ServiceState.readIngested at read
  split at read
  · cases read
  · next parsed =>
      split_ifs at read
      cases read
      obtain ⟨persisted, reparsed, -, digest⟩ := reread_of_parse parsed fits
      exact ⟨persisted, reparsed, digest⟩

theorem Persisting.create (persisting : Persisting numbers start events working)
    {handle : SocketHandle} {task : Task K} {snapshot : TopologySnapshot K}
    (busy : working.tasks handle = some task)
    (creating : task.work = .creating snapshot) (alone : working.Alone handle) :
    Persisting numbers start events
      ((working.withFiles working.files.create).goOn handle task
        (.writing snapshot working.files.opened 0)) := by
  have sound := persisting.tasks handle task busy
  refine persisting.update rfl (.inr ⟨keepsRenamed_create _, alone⟩) ?_
    (.inl SnapshotFiles.read_create)
    (persisting.agrees_unchanged rfl rfl SnapshotFiles.read_create rfl ?_)
  · rintro found same
    obtain rfl := Option.some.inj same
    refine ⟨⟨?_, ?_, ?_⟩, fun _ => alone⟩
    · intro other same
      exact sound.ingested other (by rw [creating]; exact same)
    · intro other inode written same
      cases same
      exact ⟨rfl, Nat.zero_le _, by simp [withFiles, goOn, SnapshotFiles.create]⟩
    · intro other installed same
      cases same
  · intro found same
    rw [busy, Option.some.injEq] at same
    rw [← same, creating]
    rfl

theorem Persisting.write (persisting : Persisting numbers start events working)
    {handle : SocketHandle} {task : Task K} {snapshot : TopologySnapshot K}
    {inode : Inode} {written count : Nat} (busy : working.tasks handle = some task)
    (writing : task.work = .writing snapshot inode written)
    (within : written + count ≤ (textOf runtime snapshot).length) :
    Persisting numbers start events
      ((working.withFiles (working.files.write inode written
        (((textOf runtime snapshot).drop written).take count))).goOn handle task
          (.writing snapshot inode (written + count))) := by
  have sound := persisting.tasks handle task busy
  have alone := persisting.alone_of_writing busy (by rw [writing]; rfl)
  obtain ⟨temporary, short, content⟩ := sound.written snapshot inode written writing
  have read := SnapshotFiles.read_write temporary written
    (((textOf runtime snapshot).drop written).take count)
  refine persisting.update rfl (.inr ⟨keepsRenamed_write temporary _ _, alone⟩) ?_
    (.inl read) (persisting.agrees_unchanged rfl rfl read rfl ?_)
  · rintro found same
    obtain rfl := Option.some.inj same
    refine ⟨⟨?_, ?_, ?_⟩, fun _ => alone⟩
    · intro other same
      exact sound.ingested other (by rw [writing]; exact same)
    · intro other held total same
      cases same
      refine ⟨temporary, within, ?_⟩
      simp only [withFiles, goOn, SnapshotFiles.write, Function.update_self, content]
      exact overwrite_take short
    · intro other installed same
      cases same
  · intro found same
    rw [busy, Option.some.injEq] at same
    rw [← same, writing]
    rfl

theorem Persisting.rename (persisting : Persisting numbers start events working)
    {handle : SocketHandle} {task : Task K} {snapshot : TopologySnapshot K}
    {inode : Inode} {written : Nat} (busy : working.tasks handle = some task)
    (writing : task.work = .writing snapshot inode written)
    (complete : written = (textOf runtime snapshot).length) :
    Persisting numbers start events
      ((working.withFiles working.files.rename).goOn handle task
        (.installing snapshot (some inode))) := by
  have sound := persisting.tasks handle task busy
  have alone := persisting.alone_of_writing busy (by rw [writing]; rfl)
  obtain ⟨temporary, -, content⟩ := sound.written snapshot inode written writing
  have whole : working.files.content inode = textOf runtime snapshot := by
    rw [content, complete, List.take_length]
  have ingested := sound.ingested snapshot (by rw [writing]; rfl)
  refine persisting.update rfl (.inr ⟨keepsRenamed_rename temporary, alone⟩) ?_
    (.inr ⟨snapshot, ingested.1, ?_⟩) (.inl ?_)
  · rintro found same
    obtain rfl := Option.some.inj same
    refine ⟨⟨?_, ?_, ?_⟩, fun _ => alone⟩
    · intro other same
      exact sound.ingested other (by rw [writing]; exact same)
    · intro other held total same
      cases same
    · intro other installed same
      cases same
      exact ⟨inode, rfl, working.files.temporary_lt inode temporary,
        by simp [withFiles, goOn, SnapshotFiles.rename], fun _ => whole⟩
  · exact (SnapshotFiles.read_rename temporary).trans (congrArg some whole)
  · refine ⟨handle, _, Function.update_self handle _ _, rfl, ?_⟩
    simp [Work.installs, withFiles, goOn, SnapshotFiles.rename, temporary]

theorem Persisting.install (persisting : Persisting numbers start events working)
    {handle : SocketHandle} {task : Task K} {snapshot : TopologySnapshot K}
    {installed : Option Inode} (busy : working.tasks handle = some task)
    (installing : task.work = .installing snapshot installed)
    (inTurn : task.work.installs = working.files.file ∨ working.Pending) :
    Persisting numbers start events
      ((working.withService (working.service.install snapshot)).replyPayload handle
        task .ingest (ServiceState.ingestAck snapshot)) := by
  have sound := persisting.tasks handle task busy
  obtain ⟨inode, isInode, -, -, content⟩ := sound.renamed snapshot installed installing
  obtain ⟨ingested, fits⟩ := sound.ingested snapshot (by rw [installing]; rfl)
  have installs : task.work.installs = some inode := by
    rw [installing, isInode]
    rfl
  refine persisting.update rfl (.inl rfl) (by simp) (.inl rfl) ?_
  by_cases last : working.files.file = some inode
  · refine .inr fun held memory => ?_
    obtain ⟨persisted, reparsed, digest⟩ :=
      reread_of_ingested ingested fits
    have same : snapshot = held := by
      rw [replyPayload, reply, countAnswer_snapshot] at memory
      exact Option.some.inj memory
    refine ⟨textOf runtime snapshot, persisted, ?_, reparsed, same ▸ digest⟩
    change working.files.read = _
    rw [SnapshotFiles.read, last, Option.map_some, content last]
  · refine .inl ((inTurn.resolve_left fun same => ?_).update rfl rfl
      fun found isTask _ => ?_)
    · exact last (same.symm.trans installs)
    · rw [busy, Option.some.injEq] at isTask
      rw [← isTask, installs]
      exact Ne.symm last

/-- The worker is refused an operation on the temporary file, and answers. -/
theorem Persisting.refuse (persisting : Persisting numbers start events working)
    {handle : SocketHandle} {task : Task K} (frame : Frame)
    (busy : working.tasks handle = some task)
    (before : task.work.installs = none) :
    Persisting numbers start events (working.reply handle frame) := by
  refine persisting.idle rfl rfl (countAnswer_snapshot _ _) ?_ (by simp)
  intro found same
  rw [busy, Option.some.injEq] at same
  rw [← same, before]

theorem Persisting.perform (persisting : Persisting numbers start events working)
    {handle : SocketHandle} {task : Task K} {step : WorkStep}
    (busy : working.tasks handle = some task)
    (considerate : working.Considerate numbers (.work handle step))
    (performed : working.perform options runtime handle task step = some next) :
    Persisting numbers start events next := by
  have own {work : Work K} (isWork : task.work = work)
      (installs : work.installs = none) : ∀ found,
      working.tasks handle = some found → found.work.installs = none := by
    intro found same
    rw [busy, Option.some.injEq] at same
    rw [← same, isWork, installs]
  have quiet {work : Work K} (none_ : work.ingesting = none) : ∀ found,
      some { task with work := work } = some found →
        TaskSound numbers events working.files found.work ∧
          found.work.isWriting = false := by
    rintro found same
    obtain rfl := Option.some.inj same
    exact TaskSound.of_ingesting_none none_
  cases WorkingService.performs_of_perform performed with
  | create creating => exact persisting.create busy creating considerate
  | write writing within => exact persisting.write busy writing within
  | rename writing complete exists_ =>
      exact persisting.rename busy writing complete
  | refuse creating failed =>
      exact persisting.refuse _ busy (by rw [creating]; rfl)
  | discard writing failed =>
      have alone := persisting.alone_of_writing busy (by rw [writing]; rfl)
      exact persisting.update rfl (.inr ⟨keepsRenamed_remove working.files, alone⟩)
        (by simp) (.inl rfl)
        (persisting.agrees_unchanged rfl rfl rfl (countAnswer_snapshot _ _)
          (own writing rfl))
  | refuseRename writing failed complete =>
      exact persisting.refuse _ busy (by rw [writing]; rfl)
  | install installing =>
      exact persisting.install busy installing (considerate task busy)
  | poll searching asks =>
      exact persisting.idle rfl rfl rfl (own searching rfl) (quiet rfl)
  | finishSearch searching ended =>
      exact persisting.idle rfl rfl rfl (own searching rfl) (quiet rfl)
  | put storing feasible listed =>
      exact persisting.idle rfl rfl rfl (own storing rfl) (quiet rfl)
  | answer storing done =>
      exact persisting.idle rfl rfl (countAnswer_snapshot _ _) (own storing rfl)
        (by simp)

/-! ### Frames that reach a free worker -/

theorem message_of_request? {kind : MessageKind} {request : RequestKind}
    (asked : kind.request? = some request) : request.message = kind := by
  unfold MessageKind.request? at asked
  simpa using List.find?_some asked

/-- The task that a frame gives is that of its ingest, or has nothing to do with
the files. -/
theorem ingests_of_taskOf {state : ServiceState K} {flag : TokenFlag}
    {frame : Frame} {work : Work K}
    (found : state.taskOf numbers options flag frame = some work) :
    (∃ snapshot, Ingests numbers frame snapshot ∧
        work = if options.persistSnapshots then .creating snapshot
          else .installing snapshot none) ∨
      work.ingesting = none := by
  unfold ServiceState.taskOf at found
  by_cases elsewhere : state.pinnedElsewhere frame = true
  · rw [if_pos elsewhere] at found
    cases found
  rw [if_neg elsewhere] at found
  split at found
  · next asked =>
      split at found
      · cases found
      · next message decoded =>
          split at found
          · cases found
          · next snapshot read =>
              refine .inl ⟨snapshot, ⟨(message_of_request? asked).symm, ?_⟩,
                (Option.some.inj found).symm⟩
              simp [ServiceState.ingestedFrom, decoded, read, Except.toOption]
  · split at found
    · cases found
    · split at found
      · cases found
      · cases found
        exact .inr rfl
  · cases found

/-- A frame that gives no task leaves the memory alone. -/
theorem serveFrame_snapshot {state : ServiceState K} {flag : TokenFlag}
    (faults : FrameFaults) {frame : Frame}
    (atOnce : state.taskOf numbers options flag frame = none) :
    (state.serveFrame numbers options faults frame).2.snapshot =
      state.snapshot := by
  have handled : (state.handleFrame numbers options faults frame).2.snapshot =
      state.snapshot := by
    unfold ServiceState.handleFrame
    by_cases elsewhere : state.pinnedElsewhere frame = true
    · rw [if_pos elsewhere]
    · rw [if_neg elsewhere]
      cases asked : frame.kind.request? with
      | none => rfl
      | some kind =>
          have kept : (ServiceState.handleRequest numbers options state faults kind
              frame.payload).2.snapshot = state.snapshot := by
            cases result : ServiceState.handleRequest numbers options state faults
                kind frame.payload with
            | mk reply next =>
                cases reply with
                | error status =>
                    have same := ServiceState.handleRequest_error
                      (congrArg Prod.fst result)
                    rw [result] at same
                    exact congrArg ServiceState.snapshot same
                | ok payload =>
                    have changes := ServiceState.handleRequest_snapshot result
                    split_ifs at changes with ingest
                    · obtain ⟨snapshot, found, -⟩ := changes
                      obtain ⟨message, decoded, read⟩ :=
                        Option.bind_eq_some_iff.mp found
                      simp [ServiceState.taskOf, elsewhere, asked, ingest,
                        toOption_eq_some_iff.mp decoded,
                        toOption_eq_some_iff.mp read] at atOnce
                    · exact changes.1
          dsimp only
          split <;> exact kept
  unfold ServiceState.serveFrame
  split_ifs
  · rfl
  · dsimp only
    split_ifs <;> exact handled

omit [Field K] [LinearOrder K] in
theorem begin_snapshot (work : Work K)
    (state : ServiceState K) : (work.begin_ state).snapshot = state.snapshot := by
  cases work <;> rfl

theorem Persisting.after (persisting : Persisting numbers start events working)
    (persists : options.persistSnapshots = true) {event : WorkerEvent}
    (considerate : working.Considerate numbers event)
    (happened : working.after numbers options event = some next) :
    Persisting numbers start (events ++ [event]) next := by
  have persisting := persisting.later [event]
  cases event with
  | receive handle faults frame =>
      simp only [WorkingService.after, Option.ite_none_left_eq_some,
        Option.some.injEq] at happened
      obtain ⟨free, rfl⟩ := happened
      have none_ : working.tasks handle = none := by simpa using free
      unfold WorkingService.receive
      cases found : working.service.taskOf numbers options working.nextFlag frame with
      | none =>
          have memory := serveFrame_snapshot faults found
          refine ⟨persisting.tasks, persisting.alone, persisting.file,
            persisting.agrees.imp_right fun agrees snapshot held => ?_⟩
          exact agrees snapshot (memory ▸ held)
      | some work =>
          refine persisting.idle rfl rfl (begin_snapshot work _)
            (by simp [none_]) ?_
          rintro task same
          obtain rfl := Option.some.inj same
          rcases ingests_of_taskOf found with ⟨snapshot, ingests, rfl⟩ | none_
          · rw [persists, if_pos rfl]
            refine ⟨⟨?_, by simp, by simp⟩, rfl⟩
            intro held same
            cases same
            exact ⟨⟨handle, faults, frame, by simp, ingests⟩,
              considerate snapshot ingests⟩
          · exact TaskSound.of_ingesting_none none_
  | work handle step =>
      obtain ⟨task, busy, performed⟩ := Option.bind_eq_some_iff.mp happened
      exact persisting.perform busy considerate performed

theorem Persisting.run (persists : options.persistSnapshots = true)
    {later : List WorkerEvent}
    (persisting : Persisting numbers start events working)
    (considerate : working.AllConsiderate numbers options later)
    (ran : working.run numbers options later = some next) :
    Persisting numbers start (events ++ later) next := by
  induction later generalizing events working with
  | nil =>
      obtain rfl : working = next := Option.some.inj ran
      simpa using persisting
  | cons event rest ih =>
      rw [WorkingService.run, List.foldlM_cons] at ran
      obtain ⟨middle, happened, rest_⟩ := Option.bind_eq_some_iff.mp ran
      have stepped := persisting.after persists considerate.1 happened
      simpa using ih stepped (considerate.2 middle happened) rest_

/-- A service that is started agrees with the file it was started over. -/
theorem agrees_of_start {faults : StartFaults} {incarnation : IncarnationState}
    {store : Directory} {service : ServiceState K} {files : SnapshotFiles}
    (started : startService numbers options faults incarnation files.read store =
      .ok service) :
    (⟨service, files, fun _ => none, 0, []⟩ : WorkingService K).Agrees numbers := by
  unfold startService at started
  split at started
  · cases started
  · cases started
    intro snapshot held
    simp only at held
    split_ifs at held with persists
    obtain ⟨loaded, load, rfl⟩ := Option.map_eq_some_iff.mp held
    unfold loadSnapshot at load
    split at load
    · cases load
    · next content read =>
        split_ifs at load
        exact ⟨content, loaded, read, toOption_eq_some_iff.mp load, rfl⟩

/-- In a run whose steps are all considerate, the snapshot file always holds what
it held at the start or all of an ingested snapshot, and whenever no ingest is
under way it agrees with the memory. -/
theorem considerate_ingests_agree (numbers : DoubleText runtime.formatDouble)
    (options : ServiceOptions) (persists : options.persistSnapshots = true)
    (faults : StartFaults) (incarnation : IncarnationState) (store : Directory)
    (service : ServiceState K) (files : SnapshotFiles) (events : List WorkerEvent)
    (working : WorkingService K)
    (started : startService numbers options faults incarnation files.read store =
      .ok service)
    (considerate : (⟨service, files, fun _ => none, 0, []⟩ :
      WorkingService K).AllConsiderate numbers options events)
    (ran : (⟨service, files, fun _ => none, 0, []⟩ : WorkingService K).run numbers
      options events = some working) :
    Persistent numbers ⟨service, files, fun _ => none, 0, []⟩ events working := by
  have fresh : Persisting numbers ⟨service, files, fun _ => none, 0, []⟩ []
      (⟨service, files, fun _ => none, 0, []⟩ : WorkingService K) :=
    ⟨by simp, by simp, .inl rfl, .inr (agrees_of_start started)⟩
  have persisting := fresh.run persists considerate ran
  rw [List.nil_append] at persisting
  exact persisting.persistent

/-! ### Two workers at once -/

omit [Field K] [LinearOrder K] in
theorem reply_tasks {handle other : SocketHandle} (frame : Frame)
    (differ : other ≠ handle) :
    (working.reply handle frame).tasks other = working.tasks other :=
  Function.update_of_ne differ _ _

/-- A worker leaves the tasks of the others alone. -/
theorem perform_tasks {handle other : SocketHandle} {task : Task K} {step : WorkStep}
    (differ : other ≠ handle)
    (performed : working.perform options runtime handle task step = some next) :
    next.tasks other = working.tasks other := by
  cases WorkingService.performs_of_perform performed <;>
    exact Function.update_of_ne differ _ _

theorem after_tasks {event : WorkerEvent} {other : SocketHandle}
    (differ : other ≠ event.handle)
    (happened : working.after numbers options event = some next) :
    next.tasks other = working.tasks other := by
  cases event with
  | receive handle faults frame =>
      simp only [WorkingService.after, Option.ite_none_left_eq_some,
        Option.some.injEq] at happened
      obtain ⟨-, rfl⟩ := happened
      unfold WorkingService.receive
      split
      · exact Function.update_of_ne differ _ _
      · rfl
  | work handle step =>
      obtain ⟨task, -, performed⟩ := Option.bind_eq_some_iff.mp happened
      exact perform_tasks differ performed

theorem run_cons {event : WorkerEvent} {later : List WorkerEvent}
    (happened : working.after numbers options event = some next) :
    working.run numbers options (event :: later) =
      next.run numbers options later := by
  rw [WorkingService.run, List.foldlM_cons, happened]
  rfl

/-- A worker that no event is about keeps its task. -/
theorem run_tasks {later : List WorkerEvent} {other : SocketHandle}
    (differ : ∀ event ∈ later, other ≠ event.handle)
    (ran : working.run numbers options later = some next) :
    next.tasks other = working.tasks other := by
  induction later generalizing working with
  | nil =>
      obtain rfl : working = next := Option.some.inj ran
      rfl
  | cons event rest ih =>
      rw [List.forall_mem_cons] at differ
      rw [WorkingService.run, List.foldlM_cons] at ran
      obtain ⟨middle, happened, rest_⟩ := Option.bind_eq_some_iff.mp ran
      exact (ih differ.2 rest_).trans (after_tasks differ.1 happened)

end WorkingService

end Ingests

namespace WorkingService

open WatchedService (ingestFrame soleSource)

/-- A service that was started in an empty directory. -/
def emptyService : WorkingService ℚ where
  service := { incarnation := ⟨⟨⟨1⟩, 0, 7⟩, 1, true⟩ }
  files := noFiles

/-- The worker writes all of the text of the records. -/
def writeAll (handle : SocketHandle) (builder : SnapshotBuilder ℚ) :
    List WorkerEvent :=
  [.work handle .create,
    .work handle (.write (textOf rationalRuntime
      (builder.finished rationalRuntime)).length)]

/-- An ingest up to its rename. -/
def persistSole : List WorkerEvent :=
  .receive 1 {} (ingestFrame soleSource) :: (writeAll 1 soleSource ++
    [.work 1 .rename])

theorem considerate_ingests_agree_sole :
    ∃ working, emptyService.run wholeNumbers stateOptions
        (persistSole ++ [.work 1 .install]) = some working ∧
      working.service.snapshot.isSome = true ∧
      Persistent wholeNumbers emptyService (persistSole ++ [.work 1 .install])
        working := by
  have fits : (ServiceState.ingestedFrom wholeNumbers
      (ingestFrame soleSource).payload).map (fun snapshot => decide
        ((textOf rationalRuntime snapshot).length ≤ kMaxSnapshotTextBytes)) =
      some true := by
    decide +kernel
  have renamed : (emptyService.run wholeNumbers stateOptions persistSole).map
      (fun working => ((working.tasks 1).map fun task => task.work.installs,
        working.files.file)) = some (some (some 0), some 0) := by
    decide +kernel
  have installed : (emptyService.run wholeNumbers stateOptions
      (persistSole ++ [.work 1 .install])).map
        (fun working => working.service.snapshot.isSome) = some true := by
    decide +kernel
  obtain ⟨working, ran, isSome⟩ := Option.map_eq_some_iff.mp installed
  refine ⟨working, ran, isSome, considerate_ingests_agree wholeNumbers stateOptions
    rfl {} ⟨⟨⟨1⟩, 0, 7⟩, 1, true⟩ ∅ emptyService.service noFiles _ working rfl ?_ ran⟩
  refine ⟨?_, fun first received => ⟨?_, fun second created =>
    ⟨trivial, fun third written => ⟨trivial, fun fourth moved =>
      ⟨?_, fun _ _ => trivial⟩⟩⟩⟩⟩
  · rintro snapshot ⟨-, found⟩
    rw [found] at fits
    simpa using fits
  · intro other task differ busy
    rw [after_tasks differ received] at busy
    cases busy
  · have reached : emptyService.run wholeNumbers stateOptions persistSole =
        some fourth :=
      (run_cons received).trans ((run_cons created).trans
        ((run_cons written).trans (run_cons moved)))
    rw [reached, Option.map_some, Option.some.injEq, Prod.mk.injEq] at renamed
    obtain ⟨task, busy, installs⟩ := Option.map_eq_some_iff.mp renamed.1
    intro other same
    rw [busy] at same
    cases same
    exact .inl (installs.trans renamed.2.symm)

def otherSource : SnapshotBuilder ℚ :=
  { soleSource with id := ⟨text "other"⟩ }

/-- The second worker persists and installs its snapshot between the rename and
the install of the first one. -/
def overtaken : List WorkerEvent :=
  List.flatten [persistSole, [.receive 2 {} (ingestFrame otherSource)],
    writeAll 2 otherSource,
    [.work 2 .rename, .work 2 .install, .work 1 .install]]

/-- The second worker opens the temporary file that the first one has written. -/
def truncated : List WorkerEvent :=
  List.flatten [[.receive 1 {} (ingestFrame soleSource)], writeAll 1 soleSource,
    [.receive 2 {} (ingestFrame otherSource), .work 2 .create, .work 1 .rename]]

theorem textOf_ne_nil (snapshot : TopologySnapshot ℚ) :
    textOf rationalRuntime snapshot ≠ [] := by
  have magic : text "OPP-SNAPSHOT 1\n" ≠ [] := by decide
  simp [textOf, snapshotToText, magic]

/-- An ingest that is overtaken leaves a file that disagrees with the memory, and
one whose temporary file is opened by another leaves a file without bytes. -/
theorem overtaken_ingest_disagrees :
    startService wholeNumbers stateOptions {} ⟨⟨⟨1⟩, 0, 7⟩, 1, true⟩ none ∅ =
      .ok emptyService.service ∧
    (∃ working, emptyService.run wholeNumbers stateOptions overtaken =
        some working ∧ working.Quiet ∧
      ¬ Persistent wholeNumbers emptyService overtaken working) ∧
    ∃ working, emptyService.run wholeNumbers stateOptions truncated =
        some working ∧ working.files.read = some [] ∧
      ¬ Persistent wholeNumbers emptyService truncated working := by
  refine ⟨rfl, ?_, ?_⟩
  · have facts : (emptyService.run wholeNumbers stateOptions overtaken).map
        (fun working => (working.service.snapshot.isSome,
          decide (working.service.snapshot.map TopologySnapshot.digest =
            (working.files.read.bind fun content => (parseSnapshotText wholeNumbers
              content).toOption).map TopologySnapshot.digest),
          (working.tasks 1).isNone, (working.tasks 2).isNone)) =
        some (true, false, true, true) := by
      decide +kernel
    obtain ⟨working, ran, parts⟩ := Option.map_eq_some_iff.mp facts
    simp only [Prod.mk.injEq, Option.isNone_iff_eq_none, decide_eq_false_iff_not,
      Option.isSome_iff_exists] at parts
    obtain ⟨⟨snapshot, held⟩, differ, first, second⟩ := parts
    have quiet : working.Quiet := by
      intro handle task busy
      by_cases one : handle = 1
      · rw [one, first] at busy
        cases busy
      · by_cases two : handle = 2
        · rw [two, second] at busy
          cases busy
        · have same : working.tasks handle = emptyService.tasks handle := by
            refine run_tasks ?_ ran
            intro event member
            have handles : ∀ event ∈ overtaken, event.handle = 1 ∨
                event.handle = 2 := by
              decide
            rcases handles event member with isOne | isTwo
            · exact isOne ▸ one
            · exact isTwo ▸ two
          rw [same] at busy
          cases busy
    refine ⟨working, ran, quiet, fun persistent => differ ?_⟩
    obtain ⟨content, persisted, read, parsed, digest⟩ :=
      persistent.agrees quiet snapshot held
    rw [held, read, Option.bind_some, toOption_eq_some_iff.mpr parsed]
    exact congrArg some digest.symm
  · have facts : (emptyService.run wholeNumbers stateOptions truncated).map
        (fun working => working.files.read) = some (some []) := by
      decide +kernel
    obtain ⟨working, ran, read⟩ := Option.map_eq_some_iff.mp facts
    refine ⟨working, ran, read, fun persistent => ?_⟩
    rcases persistent.file with same | ⟨snapshot, -, same⟩
    · rw [read] at same
      cases same
    · rw [read] at same
      exact textOf_ne_nil snapshot (Option.some.inj same).symm

end WorkingService

end OpticalPathPlanner
