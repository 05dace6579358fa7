import OpticalPathPlanner.Connections
import OpticalPathPlanner.SearchPolls

/-!
# The workers of the service

Every connection has a worker, and the workers share one service.  Ingesting a
snapshot and planning take several steps each, and the other workers may step in
between: a snapshot is written to a temporary file that all workers name alike,
renamed, and only then installed; a search polls its token before every label.
Every other frame is answered in one step.
-/

namespace OpticalPathPlanner

/-! ### Files of the state directory -/

/-- The number of a file, which outlives its name. -/
abbrev Inode := Nat

/-- What stands under the name of the snapshot file and under the name of its
temporary file, which is the same for all workers of a process. -/
structure SnapshotFiles where
  content : Inode → Bytes
  file : Option Inode
  temporary : Option Inode
  /-- No file has a number from here on. -/
  free : Inode
  file_lt : ∀ inode ∈ file, inode < free
  temporary_lt : ∀ inode ∈ temporary, inode < free
  distinct : ∀ inode ∈ file, inode ∉ temporary

/-- Bytes written from an offset on.  A gap in front of them reads as zeros. -/
def overwrite (content : Bytes) (offset : Nat) (bytes : Bytes) : Bytes :=
  List.flatten [content.take offset, List.replicate (offset - content.length) 0,
    bytes, content.drop (offset + bytes.length)]

namespace SnapshotFiles

variable (files : SnapshotFiles)

def read : Option Bytes := files.file.map files.content

/-- The file that opening the temporary one for writing gives, an old one or a
new one. -/
def opened : Inode := files.temporary.getD files.free

/-- `fopen` of the temporary file, which loses what it held. -/
def create : SnapshotFiles where
  content := Function.update files.content files.opened []
  file := files.file
  temporary := some files.opened
  free := max files.free (files.opened + 1)
  file_lt inode named := lt_max_of_lt_left (files.file_lt inode named)
  temporary_lt inode named := by
    obtain rfl := Option.some.inj named
    exact lt_max_of_lt_right (Nat.lt_succ_self _)
  distinct inode named same := by
    have old := files.distinct inode named
    have below := files.file_lt inode named
    obtain rfl := Option.some.inj same
    unfold opened at old below
    cases temporary : files.temporary with
    | none => simp [temporary] at below
    | some other => simp [temporary] at old

def write (inode : Inode) (offset : Nat) (bytes : Bytes) : SnapshotFiles :=
  { files with
    content := Function.update files.content inode
      (overwrite (files.content inode) offset bytes) }

/-- `rename` onto the name of the snapshot file. -/
def rename : SnapshotFiles where
  content := files.content
  file := files.temporary <|> files.file
  temporary := none
  free := files.free
  file_lt inode named := by
    have held : files.temporary = some inode ∨ files.file = some inode := by
      cases temporary : files.temporary with
      | none => exact .inr (by simpa [temporary] using named)
      | some other => exact .inl (by simpa [temporary] using named)
    exact held.elim (files.temporary_lt inode) (files.file_lt inode)
  temporary_lt := by simp
  distinct := by simp

def remove : SnapshotFiles where
  content := files.content
  file := files.file
  temporary := none
  free := files.free
  file_lt := files.file_lt
  temporary_lt := by simp
  distinct := by simp

end SnapshotFiles

/-- A directory without a snapshot file. -/
def noFiles : SnapshotFiles where
  content _ := []
  file := none
  temporary := none
  free := 0
  file_lt := by simp
  temporary_lt := by simp
  distinct := by simp

/-! ### Searches that wait for a poll -/

/-- A token whose polls were answered as recorded.  Behind the record the next
poll is pending, and the search stands still there. -/
def recordedPolls : SearchDriver (Option (List Bool)) where
  isRequested polls :=
    ((polls.bind List.head?).getD true,
      polls.bind fun answers => answers.head?.map fun _ => answers.tail)
  observer _ polls := polls

section Searching

variable {K : Type} [Field K] [LinearOrder K] (runtime : Runtime K)
  (options : ServiceOptions)

/-- How far planning gets with the recorded answers. -/
def planSoFar (snapshot : Option (TopologySnapshot K))
    (request : PlanningRequest K) (answers : List Bool) :
    PlanningResult K × Option (List Bool) :=
  match snapshot with
  | none => (ServiceState.planAnswer runtime options none request, some answers)
  | some snapshot => plan runtime { expansionCeiling := options.expansionCeiling }
      recordedPolls snapshot request (some answers)

end Searching

/-! ### Tasks of workers -/

/-- Where a worker stands with its frame. -/
inductive Work (K : Type)
  /-- The snapshot was read and checked. -/
  | creating (snapshot : TopologySnapshot K)
  /-- So many bytes of its text are written. -/
  | writing (snapshot : TopologySnapshot K) (inode : Inode) (written : Nat)
  /-- The snapshot is persisted in this file, if it has to be. -/
  | installing (snapshot : TopologySnapshot K) (inode : Option Inode)
  /-- The token the frame names is not looked at; the search polls the flag of a
  token of its own. -/
  | searching (cancelToken : UInt64) (snapshot : Option (TopologySnapshot K))
      (request : PlanningRequest K) (flag : TokenFlag) (answers : List Bool)
  /-- So many candidates of the result are put into the store. -/
  | storing (result : PlanningResult K) (put : Nat) (stored : Bool)

structure Task (K : Type) where
  sequence : UInt64
  work : Work K

/-- The service together with its workers. -/
structure WorkingService (K : Type) where
  service : ServiceState K
  files : SnapshotFiles
  tasks : SocketHandle → Option (Task K) := fun _ => none
  /-- The flag of the next token. -/
  nextFlag : TokenFlag := 0
  /-- The frames that were answered, and by which worker. -/
  answers : List (SocketHandle × Frame) := []

/-- One step of a worker on its task. -/
inductive WorkStep
  | create
  /-- The next bytes of the text reach the file. -/
  | write (count : Nat)
  | rename
  /-- The file system refuses to create or to write the temporary file. -/
  | refuse (status : Status)
  | refuseRename (status : Status)
  | install
  | poll
  | finishSearch
  | put (fault : Status)
  | answer

inductive WorkerEvent
  | receive (handle : SocketHandle) (faults : FrameFaults) (frame : Frame)
  | work (handle : SocketHandle) (step : WorkStep)

section WorkingService

variable {K : Type} [Field K] [LinearOrder K] {runtime : Runtime K}
  (numbers : DoubleText runtime.formatDouble) (options : ServiceOptions)

/-- The task that a frame gives a worker, if it is not answered at once. -/
def ServiceState.taskOf (state : ServiceState K) (flag : TokenFlag)
    (frame : Frame) : Option (Work K) :=
  if state.pinnedElsewhere frame then none
  else
    match frame.kind.request? with
    | some .ingest =>
        match decodeIngest frame.payload with
        | .error _ => none
        | .ok message =>
            match readIngested numbers message with
            | .error _ => none
            | .ok snapshot => some (
                if options.persistSnapshots then .creating snapshot
                else .installing snapshot none)
    | some .plan =>
        match decodePlan frame.payload with
        | .error _ => none
        | .ok message =>
            match parseRequestText numbers message.requestText with
            | .error _ => none
            | .ok request => some
                (.searching message.cancelToken state.snapshot request flag [])
    | _ => none

/-- What a worker does to the service when it takes up a task. -/
def Work.begin_ (work : Work K) (state : ServiceState K) : ServiceState K :=
  match work with
  | .searching _ _ _ _ _ => state.beginPlan
  | _ => state

/-- The counters behind an answer. -/
def ServiceState.countAnswer (state : ServiceState K) (reply : Frame) :
    ServiceState K :=
  if reply.kind = .failure then
    { state with stats := { state.stats with
      framesRejected := state.stats.framesRejected + 1 } }
  else
    { state with stats := { state.stats with
      framesHandled := state.stats.framesHandled + 1 } }

namespace WorkingService

variable (working : WorkingService K)

/-- The worker goes on with its task. -/
def goOn (handle : SocketHandle) (task : Task K) (work : Work K) :
    WorkingService K :=
  { working with
    tasks := Function.update working.tasks handle (some { task with work := work }) }

/-- The files after an operation, also as the service finds them at its next
start. -/
def withFiles (files : SnapshotFiles) : WorkingService K :=
  { working with
    files := files
    service := { working.service with snapshotFile := files.read } }

def withService (service : ServiceState K) : WorkingService K :=
  { working with service := service }

/-- The worker answers its frame and is free again. -/
def reply (handle : SocketHandle) (frame : Frame) : WorkingService K :=
  { working with
    service := working.service.countAnswer frame
    tasks := Function.update working.tasks handle none
    answers := working.answers ++ [(handle, frame)] }

def replyFailure (handle : SocketHandle) (task : Task K) (status : Status) :
    WorkingService K :=
  working.reply handle (makeFailureFrame task.sequence
    working.service.incarnation.epoch status)

def replyPayload (handle : SocketHandle) (task : Task K) (kind : RequestKind)
    (payload : Bytes) : WorkingService K :=
  working.reply handle ⟨kind.ack, task.sequence,
    working.service.incarnation.epoch, payload⟩

/-- A frame reaches a worker that is free. -/
def receive (handle : SocketHandle) (faults : FrameFaults) (frame : Frame) :
    WorkingService K :=
  match working.service.taskOf numbers options working.nextFlag frame with
  | some work => { working with
      service := work.begin_ working.service
      tasks := Function.update working.tasks handle (some ⟨frame.sequence, work⟩)
      nextFlag := working.nextFlag + 1 }
  | none =>
      let served := working.service.serveFrame numbers options faults frame
      { working with
        service := served.2
        answers := working.answers ++ [(handle, served.1)] }

/-- The text that a snapshot is persisted as. -/
def textOf (runtime : Runtime K) (snapshot : TopologySnapshot K) : Bytes :=
  snapshotToText runtime.formatDouble snapshot

/-- A step of a worker, if its task admits the step. -/
def perform (runtime : Runtime K) (handle : SocketHandle) (task : Task K) :
    WorkStep → Option (WorkingService K)
  | .create =>
      match task.work with
      | .creating snapshot => some <|
          (working.withFiles working.files.create).goOn handle task
            (.writing snapshot working.files.opened 0)
      | _ => none
  | .write count =>
      match task.work with
      | .writing snapshot inode written =>
          if written + count ≤ (textOf runtime snapshot).length then some <|
            (working.withFiles (working.files.write inode written
              (((textOf runtime snapshot).drop written).take count))).goOn handle
                task (.writing snapshot inode (written + count))
          else none
      | _ => none
  | .rename =>
      match task.work with
      | .writing snapshot inode written =>
          if written = (textOf runtime snapshot).length ∧
              working.files.temporary.isSome then some <|
            (working.withFiles working.files.rename).goOn handle task
              (.installing snapshot (some inode))
          else none
      | _ => none
  | .refuse status =>
      match task.work with
      | .creating _ =>
          if status.failed then some (working.replyFailure handle task status)
          else none
      | .writing _ _ _ =>
          if status.failed then some
            ((working.withFiles working.files.remove).replyFailure handle task
              status)
          else none
      | _ => none
  | .refuseRename status =>
      match task.work with
      | .writing snapshot _ written =>
          if status.failed ∧ written = (textOf runtime snapshot).length then some
            (working.replyFailure handle task status)
          else none
      | _ => none
  | .install =>
      match task.work with
      | .installing snapshot _ => some <|
          (working.withService (working.service.install snapshot)).replyPayload
            handle task .ingest (ServiceState.ingestAck snapshot)
      | _ => none
  | .poll =>
      match task.work with
      | .searching token snapshot request flag answers =>
          if (planSoFar runtime options snapshot request answers).2 = none then
            some <| working.goOn handle task (.searching token snapshot request flag
              (answers ++ [decide (flag ∈ working.service.requested)]))
          else none
      | _ => none
  | .finishSearch =>
      match task.work with
      | .searching _ snapshot request _ answers =>
          if (planSoFar runtime options snapshot request answers).2 = some [] then
            some <| working.goOn handle task (.storing
              (planSoFar runtime options snapshot request answers).1 0 true)
          else none
      | _ => none
  | .put fault =>
      match task.work with
      | .storing result count stored =>
          if result.outcome = .feasible then
            (result.candidates[count]?).map fun plan =>
              let put := PlanStore.put runtime options.store plan fault
                working.service.store
              (working.withService { working.service with store := put.2 }).goOn
                handle task
                (.storing result (count + 1) (stored && !put.1.failed))
          else none
      | _ => none
  | .answer =>
      match task.work with
      | .storing result count stored =>
          if result.outcome ≠ .feasible ∨ count = result.candidates.length then
            some <| (working.withService (working.service.endPlan result.outcome
              stored)).replyPayload handle task .plan
                (ServiceState.planAck runtime.formatDouble result)
          else none
      | _ => none

/-- The service after an event, if the event can happen. -/
def after : WorkerEvent → Option (WorkingService K)
  | .receive handle faults frame =>
      if (working.tasks handle).isSome then none
      else some (working.receive numbers options handle faults frame)
  | .work handle step =>
      (working.tasks handle).bind fun task =>
        working.perform options runtime handle task step

def run (events : List WorkerEvent) : Option (WorkingService K) :=
  events.foldlM (after numbers options) working

/-- The service after a step of a worker, by the work the worker is at. -/
inductive Performs (runtime : Runtime K) (handle : SocketHandle) (task : Task K) :
    WorkStep → WorkingService K → Prop
  | create {snapshot : TopologySnapshot K}
      (creating : task.work = .creating snapshot) :
      Performs runtime handle task .create
        ((working.withFiles working.files.create).goOn handle task
          (.writing snapshot working.files.opened 0))
  | write {snapshot : TopologySnapshot K} {inode : Inode} {written count : Nat}
      (writing : task.work = .writing snapshot inode written)
      (within : written + count ≤ (textOf runtime snapshot).length) :
      Performs runtime handle task (.write count)
        ((working.withFiles (working.files.write inode written
          (((textOf runtime snapshot).drop written).take count))).goOn handle task
            (.writing snapshot inode (written + count)))
  | rename {snapshot : TopologySnapshot K} {inode : Inode} {written : Nat}
      (writing : task.work = .writing snapshot inode written)
      (complete : written = (textOf runtime snapshot).length)
      (exists_ : working.files.temporary.isSome) :
      Performs runtime handle task .rename
        ((working.withFiles working.files.rename).goOn handle task
          (.installing snapshot (some inode)))
  | refuse {snapshot : TopologySnapshot K} {status : Status}
      (creating : task.work = .creating snapshot) (failed : status.failed) :
      Performs runtime handle task (.refuse status)
        (working.replyFailure handle task status)
  | discard {snapshot : TopologySnapshot K} {inode : Inode} {written : Nat}
      {status : Status} (writing : task.work = .writing snapshot inode written)
      (failed : status.failed) :
      Performs runtime handle task (.refuse status)
        ((working.withFiles working.files.remove).replyFailure handle task status)
  | refuseRename {snapshot : TopologySnapshot K} {inode : Inode} {written : Nat}
      {status : Status} (writing : task.work = .writing snapshot inode written)
      (failed : status.failed)
      (complete : written = (textOf runtime snapshot).length) :
      Performs runtime handle task (.refuseRename status)
        (working.replyFailure handle task status)
  | install {snapshot : TopologySnapshot K} {installed : Option Inode}
      (installing : task.work = .installing snapshot installed) :
      Performs runtime handle task .install
        ((working.withService (working.service.install snapshot)).replyPayload
          handle task .ingest (ServiceState.ingestAck snapshot))
  | poll {token : UInt64} {snapshot : Option (TopologySnapshot K)}
      {request : PlanningRequest K} {flag : TokenFlag} {answers : List Bool}
      (searching : task.work = .searching token snapshot request flag answers)
      (asks : (planSoFar runtime options snapshot request answers).2 = none) :
      Performs runtime handle task .poll
        (working.goOn handle task (.searching token snapshot request flag
          (answers ++ [decide (flag ∈ working.service.requested)])))
  | finishSearch {token : UInt64} {snapshot : Option (TopologySnapshot K)}
      {request : PlanningRequest K} {flag : TokenFlag} {answers : List Bool}
      (searching : task.work = .searching token snapshot request flag answers)
      (ended : (planSoFar runtime options snapshot request answers).2 = some []) :
      Performs runtime handle task .finishSearch
        (working.goOn handle task (.storing
          (planSoFar runtime options snapshot request answers).1 0 true))
  | put {result : PlanningResult K} {count : Nat} {stored : Bool}
      {plan : PlanArtifact K} {fault : Status}
      (storing : task.work = .storing result count stored)
      (feasible : result.outcome = .feasible)
      (listed : result.candidates[count]? = some plan) :
      Performs runtime handle task (.put fault)
        ((working.withService { working.service with
          store := (PlanStore.put runtime options.store plan fault
            working.service.store).2 }).goOn handle task
          (.storing result (count + 1) (stored && !(PlanStore.put runtime
            options.store plan fault working.service.store).1.failed)))
  | answer {result : PlanningResult K} {count : Nat} {stored : Bool}
      (storing : task.work = .storing result count stored)
      (done : result.outcome ≠ .feasible ∨ count = result.candidates.length) :
      Performs runtime handle task .answer
        ((working.withService (working.service.endPlan result.outcome
          stored)).replyPayload handle task .plan
            (ServiceState.planAck runtime.formatDouble result))

variable {working options}

theorem performs_of_perform {handle : SocketHandle} {task : Task K}
    {step : WorkStep} {next : WorkingService K}
    (performed : working.perform options runtime handle task step = some next) :
    working.Performs options runtime handle task step next := by
  cases step with
  | create =>
      simp only [perform] at performed
      split at performed
      · next creating =>
          cases performed
          exact .create creating
      · cases performed
  | write count =>
      simp only [perform] at performed
      split at performed
      · next writing =>
          split_ifs at performed with within
          cases performed
          exact .write writing within
      · cases performed
  | rename =>
      simp only [perform] at performed
      split at performed
      · next writing =>
          split_ifs at performed with complete
          cases performed
          exact .rename writing complete.1 complete.2
      · cases performed
  | refuse status =>
      simp only [perform] at performed
      split at performed
      · next creating =>
          split_ifs at performed with failed
          cases performed
          exact .refuse creating failed
      · next writing =>
          split_ifs at performed with failed
          cases performed
          exact .discard writing failed
      · cases performed
  | refuseRename status =>
      simp only [perform] at performed
      split at performed
      · next writing =>
          split_ifs at performed with refused
          cases performed
          exact .refuseRename writing refused.1 refused.2
      · cases performed
  | install =>
      simp only [perform] at performed
      split at performed
      · next installing =>
          cases performed
          exact .install installing
      · cases performed
  | poll =>
      simp only [perform] at performed
      split at performed
      · next searching =>
          split_ifs at performed with asks
          cases performed
          exact .poll searching asks
      · cases performed
  | finishSearch =>
      simp only [perform] at performed
      split at performed
      · next searching =>
          split_ifs at performed with ended
          cases performed
          exact .finishSearch searching ended
      · cases performed
  | put fault =>
      simp only [perform] at performed
      split at performed
      · next storing =>
          split_ifs at performed with feasible
          obtain ⟨plan, listed, rfl⟩ := Option.map_eq_some_iff.mp performed
          exact .put storing feasible listed
      · cases performed
  | answer =>
      simp only [perform] at performed
      split at performed
      · next storing =>
          split_ifs at performed with done
          cases performed
          exact .answer storing done
      · cases performed

end WorkingService

end WorkingService

end OpticalPathPlanner
