import OpticalPathPlanner.ClientSessions
import OpticalPathPlanner.ConcurrentIngests
import OpticalPathPlanner.Runs

/-!
# Clients and workers side by side

Every connection has a client at one end and a worker at the other, and bytes on
their way in both directions.  Clients send and read, workers take up frames and
work on them, in any order.  A client sends its next frame when it has read a
frame for the last one, and a worker takes up the next frame when it has
answered the last one: so there is never more than one frame underway on a
connection, and what a client reads is the answer to what it sent, although it
never looks at the number.
-/

namespace OpticalPathPlanner

/-! ### Connections -/

/-- The two ends of a connection. -/
structure Connection where
  client : ServiceClient
  /-- The frame whose response the client waits for. -/
  waiting : Option Frame := none
  /-- What was sent and is not read, by the worker and by the client. -/
  requests : Bytes := []
  replies : Bytes := []
  /-- The worker reads on. -/
  served : Bool := true
  /-- The frames sent before, with the frames read for them, if one came. -/
  exchanges : List (Frame × Option Frame) := []

structure ClientSystem (K : Type) where
  working : WorkingService K
  connections : SocketHandle → Connection

inductive ClientEvent
  | setEpochPin (handle : SocketHandle) (epoch : UInt64)
  | send (handle : SocketHandle) (kind : RequestKind) (payload : Bytes)
  /-- The worker reads a frame. -/
  | receive (handle : SocketHandle) (faults : FrameFaults)
  | work (handle : SocketHandle) (step : WorkStep)
  /-- The worker sees the stop flag between two frames. -/
  | close (handle : SocketHandle)
  /-- The client reads a frame, or the end of the stream. -/
  | read (handle : SocketHandle)

section Systems

variable {K : Type} [Field K] [LinearOrder K] {runtime : Runtime K}
  (numbers : DoubleText runtime.formatDouble) (options : ServiceOptions)
  (maxFrameBytes : UInt32)

namespace WorkingService

/-- The answer to bytes that are no frame. -/
def refuse (working : WorkingService K) (handle : SocketHandle) (status : Status) :
    WorkingService K :=
  let frame := makeFailureFrame 0 working.service.incarnation.epoch status
  { working with
    service := working.service.countAnswer frame
    answers := working.answers ++ [(handle, frame)] }

/-- The frames that were answered on a connection. -/
def answersOn (working : WorkingService K) (handle : SocketHandle) : List Frame :=
  (working.answers.filter fun answer => answer.1 == handle).map Prod.snd

end WorkingService

namespace ClientSystem

variable (system : ClientSystem K)

def setConnection (handle : SocketHandle) (connection : Connection) : ClientSystem K :=
  { system with connections := Function.update system.connections handle connection }

/-- Another state of the workers, and what they answered meanwhile on a
connection. -/
def deliver (sha256 : Bytes → Digest256) (working : WorkingService K)
    (handle : SocketHandle) (connection : Connection) : ClientSystem K where
  working := working
  connections := Function.update system.connections handle { connection with
    replies := connection.replies ++ ((working.answersOn handle).drop
      (system.working.answersOn handle).length).flatMap (encodeFrame sha256) }

def after : ClientEvent → Option (ClientSystem K)
  | .setEpochPin handle epoch =>
      let connection := system.connections handle
      some (system.setConnection handle
        { connection with client := connection.client.setEpochPin epoch })
  | .send handle kind payload =>
      let connection := system.connections handle
      let frame := connection.client.frame kind payload
      if connection.waiting.isSome then none
      else some (system.setConnection handle { connection with
        client := connection.client.advance
        waiting := some frame
        requests := if connection.served then
            connection.requests ++ encodeFrame runtime.sha256 frame
          else connection.requests })
  | .receive handle faults =>
      let connection := system.connections handle
      let read := readFrame runtime.sha256 maxFrameBytes connection.requests
      if connection.served = false ∨ (system.working.tasks handle).isSome then none
      else
        match read.1 with
        | .error status =>
            if status.code = .ioFailure then none
            else some (system.deliver runtime.sha256
              (system.working.refuse handle status) handle
              { connection with requests := [], served := false })
        | .ok frame => some (system.deliver runtime.sha256
            (system.working.receive numbers options handle faults frame) handle
            { connection with
              requests := read.2
              served := decide (frame.kind ≠ RequestKind.shutdown.message) })
  | .work handle step =>
      (system.working.after numbers options (.work handle step)).map fun working =>
        system.deliver runtime.sha256 working handle (system.connections handle)
  | .close handle =>
      let connection := system.connections handle
      if connection.served = true ∧ (system.working.tasks handle).isNone ∧
          system.working.service.stopping = true then
        some (system.setConnection handle { connection with requests := [], served := false })
      else none
  | .read handle =>
      let connection := system.connections handle
      let read := readFrame runtime.sha256 connection.client.maxFrameBytes connection.replies
      connection.waiting.bind fun frame =>
        if ClientSession.cutShort read.1 && connection.served then none
        else some (system.setConnection handle { connection with
          waiting := none
          replies := read.2
          exchanges := connection.exchanges ++ [(frame, read.1.toOption)] })

def run (events : List ClientEvent) : Option (ClientSystem K) :=
  events.foldlM (after numbers options maxFrameBytes) system

end ClientSystem

end Systems

/-! ### What a step of a worker does to a connection -/

/-- A frame that answers another one: it bears its number, and it is of the kind
that acknowledges it or a failure. -/
def Frame.Answers (reply frame : Frame) : Prop :=
  reply.sequence = frame.sequence ∧ (reply.kind = .failure ∨
    ∃ kind : RequestKind, frame.kind = kind.message ∧ reply.kind = kind.ack)

/-- The request that gives a worker its work. -/
def Work.kind {K : Type} : Work K → RequestKind
  | .creating _ | .writing _ _ _ | .installing _ _ => .ingest
  | .searching _ _ _ _ _ | .storing _ _ _ => .plan

theorem Work.kind_ne_shutdown {K : Type} (work : Work K) : work.kind ≠ .shutdown := by
  cases work <;> simp [Work.kind]

section Steps

variable {K : Type} [Field K] [LinearOrder K] {runtime : Runtime K}
  {numbers : DoubleText runtime.formatDouble} {options : ServiceOptions}

namespace WorkingService

variable {working next : WorkingService K}

/-- What taking up a frame or a step of work does on a connection: the worker has
work left, or it has answered. -/
inductive Moves (working : WorkingService K) (handle : SocketHandle) (frame : Frame)
    (next : WorkingService K) : Prop
  | works {sequence : UInt64} {work : Work K} (numbered : sequence = frame.sequence)
      (kind : frame.kind = work.kind.message)
      (tasks : next.tasks handle = some ⟨sequence, work⟩)
      (answers : next.answers = working.answers)
  | replies {reply : Frame} (matched : reply.Answers frame)
      (free : next.tasks handle = none)
      (answers : next.answers = working.answers ++ [(handle, reply)])

theorem kind_of_taskOf {state : ServiceState K} {flag : TokenFlag} {frame : Frame}
    {work : Work K} (found : state.taskOf numbers options flag frame = some work) :
    frame.kind = work.kind.message := by
  unfold ServiceState.taskOf at found
  by_cases elsewhere : state.pinnedElsewhere frame = true
  · rw [if_pos elsewhere] at found
    cases found
  rw [if_neg elsewhere] at found
  split at found
  · next asked =>
      rw [← message_of_request? asked]
      split at found
      · cases found
      · split at found
        · cases found
        · rw [Option.some.injEq] at found
          subst found
          split_ifs <;> rfl
  · next asked =>
      rw [← message_of_request? asked]
      split at found
      · cases found
      · split at found
        · cases found
        · cases found
          rfl
  · cases found

theorem serveFrame_answers (numbers : DoubleText runtime.formatDouble)
    (options : ServiceOptions) (state : ServiceState K) (faults : FrameFaults)
    (frame : Frame) :
    (state.serveFrame numbers options faults frame).1.Answers frame := by
  by_cases shutdown : frame.kind = RequestKind.shutdown.message
  · unfold ServiceState.serveFrame
    rw [if_pos shutdown]
    exact ⟨rfl, .inr ⟨.shutdown, shutdown, rfl⟩⟩
  by_cases pinned : state.pinnedElsewhere frame = true
  · rw [ServiceState.serveFrame_of_pinned shutdown pinned]
    exact ⟨rfl, .inl rfl⟩
  cases asked : frame.kind.request? with
  | none =>
      unfold ServiceState.serveFrame ServiceState.handleFrame
      rw [if_neg shutdown, if_neg pinned, asked]
      exact ⟨rfl, .inl rfl⟩
  | some kind =>
      cases handled : ServiceState.handleRequest numbers options state faults kind
          frame.payload with
      | mk result next =>
          cases result with
          | error status =>
              rw [ServiceState.serveFrame_of_error shutdown pinned asked handled]
              exact ⟨rfl, .inl rfl⟩
          | ok payload =>
              rw [ServiceState.serveFrame_of_ok shutdown pinned asked handled]
              exact ⟨rfl, .inr ⟨kind, (message_of_request? asked).symm, rfl⟩⟩

theorem receive_moves {handle : SocketHandle} (free : working.tasks handle = none)
    (faults : FrameFaults) (frame : Frame) :
    working.Moves handle frame
      (working.receive numbers options handle faults frame) := by
  unfold receive
  cases found : working.service.taskOf numbers options working.nextFlag frame with
  | some work =>
      exact .works rfl (kind_of_taskOf found) (Function.update_self _ _ _) rfl
  | none =>
      exact .replies (serveFrame_answers numbers options _ faults frame) free rfl

omit [Field K] [LinearOrder K] in
theorem replyFailure_moves {handle : SocketHandle} {task : Task K} {frame : Frame}
    {before : WorkingService K} (sequence : task.sequence = frame.sequence)
    (answers : before.answers = working.answers) (status : Status) :
    working.Moves handle frame (before.replyFailure handle task status) :=
  .replies ⟨sequence, .inl rfl⟩ (Function.update_self _ _ _)
    (congrArg (· ++ _) answers)

omit [Field K] [LinearOrder K] in
theorem replyPayload_moves {handle : SocketHandle} {task : Task K} {frame : Frame}
    {before : WorkingService K} {kind : RequestKind}
    (sequence : task.sequence = frame.sequence) (asked : frame.kind = kind.message)
    (answers : before.answers = working.answers) (payload : Bytes) :
    working.Moves handle frame (before.replyPayload handle task kind payload) :=
  .replies ⟨sequence, .inr ⟨kind, asked, rfl⟩⟩ (Function.update_self _ _ _)
    (congrArg (· ++ _) answers)

omit [Field K] [LinearOrder K] in
theorem goOn_moves {handle : SocketHandle} {task : Task K} {frame : Frame}
    {before : WorkingService K} {work : Work K}
    (sequence : task.sequence = frame.sequence) (asked : frame.kind = work.kind.message)
    (answers : before.answers = working.answers) :
    working.Moves handle frame (before.goOn handle task work) :=
  .works sequence asked (Function.update_self _ _ _) answers

theorem performs_moves {handle : SocketHandle} {task : Task K} {step : WorkStep}
    {frame : Frame} (sequence : task.sequence = frame.sequence)
    (asked : frame.kind = task.work.kind.message)
    (performs : working.Performs options runtime handle task step next) :
    working.Moves handle frame next := by
  cases performs with
  | create creating =>
      rw [creating] at asked
      exact goOn_moves sequence asked (by rfl)
  | write writing within =>
      rw [writing] at asked
      exact goOn_moves sequence asked (by rfl)
  | rename writing complete exists_ =>
      rw [writing] at asked
      exact goOn_moves sequence asked (by rfl)
  | refuse creating failed => exact replyFailure_moves sequence (by rfl) _
  | discard writing failed => exact replyFailure_moves sequence (by rfl) _
  | refuseRename writing failed complete => exact replyFailure_moves sequence (by rfl) _
  | install installing =>
      rw [installing] at asked
      exact replyPayload_moves sequence asked (by rfl) _
  | poll searching asks =>
      rw [searching] at asked
      exact goOn_moves sequence asked (by rfl)
  | finishSearch searching ended =>
      rw [searching] at asked
      exact goOn_moves sequence asked (by rfl)
  | put storing feasible listed =>
      rw [storing] at asked
      exact goOn_moves sequence asked (by rfl)
  | answer storing done =>
      rw [storing] at asked
      exact replyPayload_moves sequence asked (by rfl) _

omit [Field K] [LinearOrder K] in
theorem answersOn_of_append {handle : SocketHandle} {reply : Frame}
    (answers : next.answers = working.answers ++ [(handle, reply)]) :
    next.answersOn handle = working.answersOn handle ++ [reply] := by
  simp [answersOn, answers]

omit [Field K] [LinearOrder K] in
theorem answersOn_of_other {handle other : SocketHandle} {reply : Frame}
    (differ : other ≠ handle)
    (answers : next.answers = working.answers ++ [(handle, reply)]) :
    next.answersOn other = working.answersOn other := by
  simp [answersOn, answers, differ.symm]

omit [Field K] [LinearOrder K] in
theorem answersOn_congr (answers : next.answers = working.answers)
    (handle : SocketHandle) : next.answersOn handle = working.answersOn handle := by
  rw [answersOn, answersOn, answers]

end WorkingService

/-! ### Where a connection stands -/

/-- The frames that a client read. -/
def Connection.received (connection : Connection) : List Frame :=
  connection.exchanges.filterMap Prod.snd

/-- The frames that a client sent. -/
def Connection.sent (connection : Connection) : List Frame :=
  connection.exchanges.map Prod.fst ++ connection.waiting.toList

/-- Where the exchange of a connection stands, by the task of its worker and the
frames the worker answered. -/
inductive Stage (sha256 : Bytes → Digest256) (maxFrameBytes : UInt32)
    (connection : Connection) (task : Option (Task K)) (answers : List Frame) : Prop
  | idle (waiting : connection.waiting = none) (requests : connection.requests = [])
      (replies : connection.replies = []) (free : task = none)
      (read : answers = connection.received)
  | sent {frame : Frame} (waiting : connection.waiting = some frame)
      (served : connection.served = true)
      (requests : connection.requests = encodeFrame sha256 frame)
      (carried : frame.Carried maxFrameBytes)
      (replies : connection.replies = []) (free : task = none)
      (read : answers = connection.received)
  /-- The worker was gone, or it stopped before it read the frame. -/
  | lost {frame : Frame} (waiting : connection.waiting = some frame)
      (served : connection.served = false) (requests : connection.requests = [])
      (replies : connection.replies = []) (free : task = none)
      (read : answers = connection.received)
  | working {frame : Frame} {work : Task K} (waiting : connection.waiting = some frame)
      (served : connection.served = true) (requests : connection.requests = [])
      (replies : connection.replies = [])
      (busy : task = some work) (sequence : work.sequence = frame.sequence)
      (kind : frame.kind = work.work.kind.message)
      (read : answers = connection.received)
  | answered {frame reply : Frame} (waiting : connection.waiting = some frame)
      (requests : connection.requests = [])
      (replies : connection.replies = encodeFrame sha256 reply)
      (free : task = none) (matched : reply.Answers frame)
      (read : answers = connection.received ++ [reply])

/-- Frames are numbered from one on, and what was read answers what was sent. -/
structure Connection.Matched (connection : Connection) : Prop where
  sequence : connection.client.sequence = UInt64.ofNat connection.sent.length
  numbered : connection.sent.map Frame.sequence =
    (List.range connection.sent.length).map fun index => UInt64.ofNat (index + 1)
  matched : ∀ exchange ∈ connection.exchanges, ∀ reply,
    exchange.2 = some reply → reply.Answers exchange.1

namespace Connection

variable {connection : Connection}

theorem Matched.setEpochPin (matched : connection.Matched) (epoch : UInt64) :
    Matched { connection with client := connection.client.setEpochPin epoch } :=
  ⟨matched.sequence, matched.numbered, matched.matched⟩

theorem Matched.send (matched : connection.Matched) (waiting : connection.waiting = none)
    (kind : RequestKind) (payload requests : Bytes) :
    Matched { connection with
      client := connection.client.advance
      waiting := some (connection.client.frame kind payload)
      requests := requests } := by
  obtain ⟨sequence, numbered, answered⟩ := matched
  have before : connection.sent = connection.exchanges.map Prod.fst := by
    rw [sent, waiting, Option.toList_none, List.append_nil]
  rw [before] at sequence numbered
  refine ⟨?_, ?_, answered⟩
  · simp only [sent, Option.toList_some, List.length_append, List.length_singleton,
      ServiceClient.advance, sequence, UInt64.ofNat_add]
    rfl
  · simp only [sent, Option.toList_some, List.length_append, List.length_singleton,
      List.map_append, List.range_succ, numbered, ServiceClient.frame, List.map_cons,
      List.map_nil, sequence, UInt64.ofNat_add]
    rfl

/-- Whatever is read for a frame, the frame was sent. -/
theorem Matched.read (matched : connection.Matched) {frame : Frame}
    (waiting : connection.waiting = some frame) {response : Option Frame}
    (answers : ∀ reply, response = some reply → reply.Answers frame) (replies : Bytes) :
    Matched { connection with
      waiting := none
      replies := replies
      exchanges := connection.exchanges ++ [(frame, response)] } := by
  obtain ⟨sequence, numbered, answered⟩ := matched
  have same : connection.sent =
      (connection.exchanges ++ [(frame, response)]).map Prod.fst ++ [] := by
    rw [sent, waiting]
    simp
  rw [same] at sequence numbered
  refine ⟨sequence, numbered, ?_⟩
  intro exchange member reply found
  rw [List.mem_append, List.mem_singleton] at member
  rcases member with earlier | rfl
  · exact answered exchange earlier reply found
  · exact answers reply found

theorem received_of_append {next : Connection} {frame : Frame}
    {response : Option Frame}
    (exchanges : next.exchanges = connection.exchanges ++ [(frame, response)]) :
    next.received = connection.received ++ response.toList := by
  rw [received, received, exchanges, List.filterMap_append]
  cases response <;> rfl

end Connection

theorem readFrame_nil (sha256 : Bytes → Digest256) (maxFrameBytes : UInt32) :
    readFrame sha256 maxFrameBytes [] = (.error ServiceState.goneStatus, []) := rfl

namespace ClientSystem

variable {system next : ClientSystem K} {maxFrameBytes : UInt32} {handle : SocketHandle}

/-- What holds of every connection, whatever happens on the others. -/
structure Orderly (runtime : Runtime K) (maxFrameBytes : UInt32)
    (system : ClientSystem K) (handle : SocketHandle) : Prop where
  stage : Stage runtime.sha256 maxFrameBytes (system.connections handle)
    (system.working.tasks handle) (system.working.answersOn handle)
  matched : (system.connections handle).Matched

theorem Orderly.setConnection {connection : Connection}
    (stage : Stage runtime.sha256 maxFrameBytes connection
      (system.working.tasks handle) (system.working.answersOn handle))
    (matched : connection.Matched) :
    Orderly runtime maxFrameBytes (system.setConnection handle connection) handle := by
  unfold ClientSystem.setConnection
  constructor
  · simpa only [Function.update_self] using stage
  · simpa only [Function.update_self] using matched

theorem Orderly.setEpochPin (orderly : Orderly runtime maxFrameBytes system handle)
    (epoch : UInt64) :
    Orderly runtime maxFrameBytes (system.setConnection handle
      { system.connections handle with
        client := (system.connections handle).client.setEpochPin epoch }) handle := by
  obtain ⟨stage, matched⟩ := orderly
  refine .setConnection ?_ (matched.setEpochPin epoch)
  cases stage with
  | idle waiting requests replies free read =>
      exact .idle waiting requests replies free read
  | sent waiting served requests carried replies free read =>
      exact .sent waiting served requests carried replies free read
  | lost waiting served requests replies free read =>
      exact .lost waiting served requests replies free read
  | working waiting served requests replies busy sequence kind read =>
      exact .working waiting served requests replies busy sequence kind read
  | answered waiting requests replies free matched read =>
      exact .answered waiting requests replies free matched read

/-- A client that waits for nothing sends its next frame. -/
theorem Orderly.send (orderly : Orderly runtime maxFrameBytes system handle)
    {kind : RequestKind} {payload : Bytes}
    (carried : ((system.connections handle).client.frame kind payload).Carried
      maxFrameBytes)
    (happened : system.after numbers options maxFrameBytes (.send handle kind payload) =
      some next) : Orderly runtime maxFrameBytes next handle := by
  obtain ⟨stage, matched⟩ := orderly
  simp only [after, Option.ite_none_left_eq_some, Option.some.injEq] at happened
  obtain ⟨silent, rfl⟩ := happened
  have waiting : (system.connections handle).waiting = none := by simpa using silent
  refine .setConnection ?_ (matched.send waiting kind payload _)
  cases stage with
  | idle _ requests replies free read =>
      cases served : (system.connections handle).served with
      | true =>
          refine .sent rfl rfl ?_ carried replies free read
          rw [if_pos rfl, requests, List.nil_append]
      | false =>
          refine .lost rfl rfl ?_ replies free read
          rw [if_neg (by simp), requests]
  | sent sending _ _ _ _ _ _ => cases waiting.symm.trans sending
  | lost sending _ _ _ _ _ => cases waiting.symm.trans sending
  | working sending _ _ _ _ _ _ _ => cases waiting.symm.trans sending
  | answered sending _ _ _ _ _ => cases waiting.symm.trans sending

/-- The worker took up the frame of the connection, or worked on it. -/
theorem Orderly.deliver (matched : (system.connections handle).Matched)
    {working : WorkingService K} {frame : Frame}
    (waiting : (system.connections handle).waiting = some frame)
    (replies : (system.connections handle).replies = [])
    (read : system.working.answersOn handle = (system.connections handle).received)
    (moves : system.working.Moves handle frame working)
    {served : Bool} (goesOn : ∀ kind : RequestKind, kind ≠ .shutdown →
      frame.kind = kind.message → served = true) :
    Orderly runtime maxFrameBytes (system.deliver runtime.sha256 working handle
      { system.connections handle with requests := [], served := served }) handle := by
  unfold ClientSystem.deliver
  refine ⟨?_, ?_⟩
  · simp only [Function.update_self, replies, List.nil_append]
    cases moves with
    | works numbered kind tasks answers =>
        have same := WorkingService.answersOn_congr answers handle
        have open_ : served = true := goesOn _ (Work.kind_ne_shutdown _) kind
        refine .working waiting open_ rfl ?_ tasks numbered kind (same.trans read)
        rw [same, List.drop_length, List.flatMap_nil]
    | replies answered free answers =>
        have same := WorkingService.answersOn_of_append answers
        refine .answered waiting rfl ?_ free answered (same.trans (by rw [read]; rfl))
        rw [same, List.drop_left, List.flatMap_singleton]
  · simp only [Function.update_self]
    exact ⟨matched.sequence, matched.numbered, matched.matched⟩

/-- A worker that is free reads the frame its client sent. -/
theorem Orderly.receive (orderly : Orderly runtime maxFrameBytes system handle)
    {faults : FrameFaults}
    (happened : system.after numbers options maxFrameBytes (.receive handle faults) =
      some next) : Orderly runtime maxFrameBytes next handle := by
  obtain ⟨stage, matched⟩ := orderly
  simp only [after, Option.ite_none_left_eq_some, not_or] at happened
  obtain ⟨⟨open_, idle⟩, happened⟩ := happened
  have starved : (system.connections handle).requests ≠ [] := by
    intro nothing
    rw [nothing, readFrame_nil] at happened
    cases happened
  cases stage with
  | idle waiting requests replies free read => exact (starved requests).elim
  | lost waiting served requests replies free read => exact (starved requests).elim
  | working waiting served requests replies busy sequence kind read =>
      exact (starved requests).elim
  | answered waiting requests replies free matched read =>
      exact (starved requests).elim
  | sent waiting served requests carried replies free read =>
      rename_i frame
      rw [requests, readFrame_encodeFrame carried] at happened
      obtain rfl := Option.some.inj happened
      refine .deliver matched waiting replies read
        (WorkingService.receive_moves free faults frame) ?_
      intro kind other asked
      rw [asked, decide_eq_true_eq]
      intro same
      apply other
      revert same
      cases kind <;> decide

/-- A worker takes a step on the task its client gave it. -/
theorem Orderly.work (orderly : Orderly runtime maxFrameBytes system handle)
    {step : WorkStep}
    (happened : system.after numbers options maxFrameBytes (.work handle step) =
      some next) : Orderly runtime maxFrameBytes next handle := by
  obtain ⟨stage, matched⟩ := orderly
  obtain ⟨working, worked, rfl⟩ := Option.map_eq_some_iff.mp happened
  obtain ⟨task, found, performed⟩ := Option.bind_eq_some_iff.mp worked
  cases stage with
  | idle waiting requests replies free read => cases free.symm.trans found
  | sent waiting served requests carried replies free read => cases free.symm.trans found
  | lost waiting served requests replies free read => cases free.symm.trans found
  | answered waiting requests replies free matched read => cases free.symm.trans found
  | working waiting served requests replies busy sequence kind read =>
      cases busy.symm.trans found
      have moves := WorkingService.performs_moves sequence kind
        (WorkingService.performs_of_perform performed)
      have delivered : Orderly runtime maxFrameBytes (system.deliver runtime.sha256
          working handle { system.connections handle with
            requests := [], served := true }) handle :=
        .deliver matched waiting replies read moves fun _ _ _ => rfl
      rwa [← requests, ← served] at delivered

/-- A worker that sees the stop flag is gone. -/
theorem Orderly.close (orderly : Orderly runtime maxFrameBytes system handle)
    (happened : system.after numbers options maxFrameBytes (.close handle) =
      some next) : Orderly runtime maxFrameBytes next handle := by
  obtain ⟨stage, matched⟩ := orderly
  simp only [after, Option.ite_none_right_eq_some, Option.some.injEq] at happened
  obtain ⟨⟨open_, idle, stopping⟩, rfl⟩ := happened
  refine .setConnection ?_ ⟨matched.sequence, matched.numbered, matched.matched⟩
  cases stage with
  | idle waiting requests replies free read => exact .idle waiting rfl replies free read
  | sent waiting served requests carried replies free read =>
      exact .lost waiting rfl rfl replies free read
  | lost waiting served requests replies free read =>
      exact .lost waiting rfl rfl replies free read
  | working waiting served requests replies busy sequence kind read =>
      rw [busy] at idle
      cases idle
  | answered waiting requests replies free matched read =>
      exact .answered waiting rfl replies free matched read

/-- A client reads the answer to the frame it sent, or the end of the stream. -/
theorem Orderly.read (orderly : Orderly runtime maxFrameBytes system handle)
    (carried : ∀ reply ∈ system.working.answersOn handle,
      reply.Carried (system.connections handle).client.maxFrameBytes)
    (happened : system.after numbers options maxFrameBytes (.read handle) =
      some next) : Orderly runtime maxFrameBytes next handle := by
  obtain ⟨stage, matched⟩ := orderly
  simp only [after] at happened
  obtain ⟨frame, waiting, happened⟩ := Option.bind_eq_some_iff.mp happened
  rw [Option.ite_none_left_eq_some] at happened
  obtain ⟨complete, happened⟩ := happened
  obtain rfl := Option.some.inj happened
  cases stage with
  | idle silent requests replies free read => cases silent.symm.trans waiting
  | sent sending served requests carried replies free read =>
      rw [replies, served] at complete
      exact (complete rfl).elim
  | working sending served requests replies busy sequence kind read =>
      rw [replies, served] at complete
      exact (complete rfl).elim
  | lost sending served requests replies free read =>
      rw [replies, readFrame_nil]
      refine .setConnection ?_ (matched.read waiting (by simp [Except.toOption]) [])
      refine .idle rfl requests rfl free (read.trans ?_)
      exact ((Connection.received_of_append rfl).trans (List.append_nil _)).symm
  | answered sending requests replies free answers read =>
      rename_i asked reply
      cases sending.symm.trans waiting
      have fits := carried reply (by simp [read])
      rw [replies, readFrame_encodeFrame fits]
      refine .setConnection ?_ (matched.read waiting (by rintro _ ⟨⟩; exact answers) [])
      refine .idle rfl requests rfl free (read.trans ?_)
      exact (@Connection.received_of_append (system.connections handle) _ frame
        (some reply) rfl).symm

/-! ### Runs -/

/-- What an event on one connection does to the system. -/
structure Effect (system next : ClientSystem K) (handle : SocketHandle) : Prop where
  connections : ∃ connection : Connection,
    next.connections = Function.update system.connections handle connection ∧
      connection.client.maxFrameBytes =
        (system.connections handle).client.maxFrameBytes
  tasks : ∀ other, other ≠ handle →
    next.working.tasks other = system.working.tasks other
  answers : next.working.answers = system.working.answers ∨
    ∃ reply, next.working.answers = system.working.answers ++ [(handle, reply)]

end ClientSystem

namespace WorkingService

variable {working next : WorkingService K}

/-- A worker answers on its own connection. -/
theorem after_answers {event : WorkerEvent}
    (happened : working.after numbers options event = some next) :
    next.answers = working.answers ∨
      ∃ reply, next.answers = working.answers ++ [(event.handle, reply)] := by
  cases event with
  | receive handle faults frame =>
      simp only [after, Option.ite_none_left_eq_some, Option.some.injEq] at happened
      obtain ⟨-, rfl⟩ := happened
      unfold receive
      split
      · exact .inl rfl
      · exact .inr ⟨_, rfl⟩
  | work handle step =>
      obtain ⟨task, -, performed⟩ := Option.bind_eq_some_iff.mp happened
      cases performs_of_perform performed with
      | create | write | rename | poll | finishSearch | put => exact .inl rfl
      | refuse | discard | refuseRename | install | answer => exact .inr ⟨_, rfl⟩

end WorkingService

namespace ClientEvent

def handle : ClientEvent → SocketHandle
  | .setEpochPin handle _ | .send handle _ _ | .receive handle _ | .work handle _
  | .close handle | .read handle => handle

/-- A payload that is sent keeps the limits of the service and of the transport. -/
def Permitted (maxFrameBytes : UInt32) : ClientEvent → Prop
  | .send _ _ payload =>
      payload.length ≤ maxFrameBytes.toNat ∧ payload.length ≤ kMaxFrameBytes
  | _ => True

end ClientEvent

namespace ClientSystem

variable {system next : ClientSystem K} {maxFrameBytes : UInt32}

omit [Field K] [LinearOrder K] in
theorem Effect.setConnection {handle : SocketHandle} {connection : Connection}
    (limit : connection.client.maxFrameBytes =
      (system.connections handle).client.maxFrameBytes) :
    Effect system (system.setConnection handle connection) handle :=
  ⟨⟨connection, rfl, limit⟩, fun _ _ => rfl, .inl rfl⟩

theorem Effect.deliver {event : WorkerEvent} {working : WorkingService K}
    (happened : system.working.after numbers options event = some working)
    (sha256 : Bytes → Digest256) {connection : Connection}
    (limit : connection.client.maxFrameBytes =
      (system.connections event.handle).client.maxFrameBytes) :
    Effect system (system.deliver sha256 working event.handle connection)
      event.handle :=
  ⟨⟨_, rfl, limit⟩, fun _ differ => WorkingService.after_tasks differ happened,
    WorkingService.after_answers happened⟩

theorem effect_of_after {event : ClientEvent}
    (happened : system.after numbers options maxFrameBytes event = some next) :
    Effect system next event.handle := by
  cases event with
  | setEpochPin handle epoch =>
      obtain rfl := Option.some.inj happened
      exact .setConnection rfl
  | send handle kind payload =>
      simp only [after, Option.ite_none_left_eq_some, Option.some.injEq] at happened
      obtain ⟨-, rfl⟩ := happened
      exact .setConnection rfl
  | receive handle faults =>
      simp only [after, Option.ite_none_left_eq_some, not_or] at happened
      obtain ⟨⟨-, idle⟩, happened⟩ := happened
      split at happened
      · split_ifs at happened
        obtain rfl := Option.some.inj happened
        exact ⟨⟨_, rfl, rfl⟩, fun _ _ => rfl, .inr ⟨_, rfl⟩⟩
      · next frame _ =>
          obtain rfl := Option.some.inj happened
          have received : system.working.after numbers options
              (.receive handle faults frame) = some (system.working.receive numbers
                options handle faults frame) := if_neg idle
          exact .deliver received _ rfl
  | work handle step =>
      obtain ⟨working, worked, rfl⟩ := Option.map_eq_some_iff.mp happened
      exact .deliver worked _ rfl
  | close handle =>
      simp only [after, Option.ite_none_right_eq_some, Option.some.injEq] at happened
      obtain ⟨-, rfl⟩ := happened
      exact .setConnection rfl
  | read handle =>
      simp only [after] at happened
      obtain ⟨frame, -, happened⟩ := Option.bind_eq_some_iff.mp happened
      rw [Option.ite_none_left_eq_some] at happened
      obtain ⟨-, happened⟩ := happened
      obtain rfl := Option.some.inj happened
      exact .setConnection rfl

namespace Effect

variable {handle : SocketHandle}

omit [Field K] [LinearOrder K] in
theorem answers_grow (effect : Effect system next handle) :
    system.working.answers <+: next.working.answers := by
  rcases effect.answers with same | ⟨reply, more⟩
  · rw [same]
  · rw [more]
    exact List.prefix_append _ _

omit [Field K] [LinearOrder K] in
theorem limit (effect : Effect system next handle) (other : SocketHandle) :
    (next.connections other).client.maxFrameBytes =
      (system.connections other).client.maxFrameBytes := by
  obtain ⟨connection, connections, limit⟩ := effect.connections
  rw [connections]
  by_cases same : other = handle
  · rw [same, Function.update_self, limit]
  · rw [Function.update_of_ne same]

theorem orderly_other (effect : Effect system next handle) {other : SocketHandle}
    (differ : other ≠ handle) (orderly : Orderly runtime maxFrameBytes system other) :
    Orderly runtime maxFrameBytes next other := by
  obtain ⟨connection, connections, -⟩ := effect.connections
  have kept : next.connections other = system.connections other := by
    rw [connections, Function.update_of_ne differ]
  have answers : next.working.answersOn other = system.working.answersOn other := by
    rcases effect.answers with same | ⟨reply, more⟩
    · exact WorkingService.answersOn_congr same other
    · exact WorkingService.answersOn_of_other differ more
  refine ⟨?_, ?_⟩
  · rw [kept, effect.tasks other differ, answers]
    exact orderly.stage
  · rw [kept]
    exact orderly.matched

end Effect

omit [Field K] [LinearOrder K] in
theorem mem_answersOn {working : WorkingService K} {handle : SocketHandle}
    {reply : Frame} :
    reply ∈ working.answersOn handle ↔ (handle, reply) ∈ working.answers := by
  simp [WorkingService.answersOn]

/-- Every answer keeps the limits of the client it goes to. -/
def RepliesFit (working : WorkingService K)
    (connections : SocketHandle → Connection) : Prop :=
  ∀ handle reply, (handle, reply) ∈ working.answers →
    reply.Carried (connections handle).client.maxFrameBytes

theorem Orderly.after {event : ClientEvent}
    (orderly : ∀ handle, Orderly runtime maxFrameBytes system handle)
    (permitted : event.Permitted maxFrameBytes)
    (fits : RepliesFit next.working system.connections)
    (happened : system.after numbers options maxFrameBytes event = some next) :
    ∀ handle, Orderly runtime maxFrameBytes next handle := by
  have effect := effect_of_after happened
  intro handle
  by_cases differ : handle ≠ event.handle
  · exact effect.orderly_other differ (orderly handle)
  obtain rfl := not_not.mp differ
  cases event with
  | setEpochPin handle epoch =>
      obtain rfl := Option.some.inj happened
      exact (orderly handle).setEpochPin epoch
  | send handle kind payload => exact (orderly handle).send permitted happened
  | receive handle faults => exact (orderly handle).receive happened
  | work handle step => exact (orderly handle).work happened
  | close handle => exact (orderly handle).close happened
  | read handle =>
      refine (orderly handle).read (fun reply member => fits handle reply ?_) happened
      exact effect.answers_grow.subset (mem_answersOn.mp member)

/-- A system whose connections were just accepted. -/
structure Fresh (system : ClientSystem K) : Prop where
  tasks : ∀ handle, system.working.tasks handle = none
  answers : system.working.answers = []
  connections : ∀ handle, ∃ client : ServiceClient, client.sequence = 0 ∧
    system.connections handle = { client := client }

theorem Orderly.of_fresh (fresh : Fresh system) (handle : SocketHandle) :
    Orderly runtime maxFrameBytes system handle := by
  obtain ⟨client, sequence, connection⟩ := fresh.connections handle
  have silent : system.working.answersOn handle = [] := by
    simp [WorkingService.answersOn, fresh.answers]
  refine ⟨?_, ?_⟩
  · rw [connection, silent]
    exact .idle rfl rfl rfl (fresh.tasks handle) rfl
  · rw [connection]
    exact ⟨sequence, rfl, by simp⟩

/-- The exchanges of a connection: the frames of the client are numbered from one
on, each frame that was read answers the frame it was read for, and the worker
answered with just these frames and at most one that is not read yet, for the
frame the client waits for. -/
structure InOrder (sha256 : Bytes → Digest256) (connection : Connection)
    (answers : List Frame) : Prop where
  numbered : connection.sent.map Frame.sequence =
    (List.range connection.sent.length).map fun index => UInt64.ofNat (index + 1)
  matched : ∀ exchange ∈ connection.exchanges, ∀ reply,
    exchange.2 = some reply → reply.Answers exchange.1
  answered : answers = connection.received ∨ ∃ frame reply,
    connection.waiting = some frame ∧ reply.Answers frame ∧
      connection.replies = encodeFrame sha256 reply ∧
      answers = connection.received ++ [reply]

theorem Orderly.inOrder {handle : SocketHandle}
    (orderly : Orderly runtime maxFrameBytes system handle) :
    InOrder runtime.sha256 (system.connections handle)
      (system.working.answersOn handle) := by
  obtain ⟨stage, matched⟩ := orderly
  refine ⟨matched.numbered, matched.matched, ?_⟩
  cases stage with
  | idle _ _ _ _ read => exact .inl read
  | sent _ _ _ _ _ _ read => exact .inl read
  | lost _ _ _ _ _ read => exact .inl read
  | working _ _ _ _ _ _ _ read => exact .inl read
  | answered waiting _ replies _ answers read =>
      exact .inr ⟨_, _, waiting, answers, replies, read⟩

theorem run_answers_grow {events : List ClientEvent} {final : ClientSystem K}
    (ran : system.run numbers options maxFrameBytes events = some final) :
    system.working.answers <+: final.working.answers :=
  Runs.invariant (fun state : ClientSystem K =>
      system.working.answers <+: state.working.answers)
    (fun _ _ _ grown happened => grown.trans (effect_of_after happened).answers_grow)
    List.prefix_rfl ran

theorem run_orderly {events : List ClientEvent} {final : ClientSystem K}
    (orderly : ∀ handle, Orderly runtime maxFrameBytes system handle)
    (permitted : ∀ event ∈ events, event.Permitted maxFrameBytes)
    (fits : RepliesFit final.working system.connections)
    (ran : system.run numbers options maxFrameBytes events = some final) :
    ∀ handle, Orderly runtime maxFrameBytes final handle := by
  induction events generalizing system with
  | nil =>
      obtain rfl : system = final := Option.some.inj ran
      exact orderly
  | cons event later ih =>
      rw [List.forall_mem_cons] at permitted
      rw [run, List.foldlM_cons] at ran
      obtain ⟨middle, happened, rest⟩ := Option.bind_eq_some_iff.mp ran
      have effect := effect_of_after happened
      refine ih ?_ permitted.2 ?_ rest
      · refine Orderly.after orderly permitted.1 ?_ happened
        intro handle reply member
        exact fits handle reply ((run_answers_grow rest).subset member)
      · intro handle reply member
        rw [effect.limit handle]
        exact fits handle reply member

end ClientSystem

end Steps

namespace ClientSystem

/-- Two clients of a service that was started in an empty directory. -/
def twoClients : ClientSystem ℚ where
  working := WorkingService.emptyService
  connections _ := { client := {} }

/-- The second client is answered first, and the first one stops the service. -/
def overlapping : List ClientEvent :=
  [.send 0 .hello (encodeHello ⟨kProtocolVersion, text "first"⟩), .send 1 .stats [],
    .receive 1 {}, .receive 0 {}, .read 0, .send 0 .shutdown [], .receive 0 {}, .close 1,
    .read 1, .read 0]

end ClientSystem

end OpticalPathPlanner
