import OpticalPathPlanner.ClientSessions
import OpticalPathPlanner.Runs

/-!
# Shutdown drains the service

`Shutdown` sets a flag and touches no socket.  The accept loop and the workers of
the connections look at the flag between their waits, and the loop joins every
worker before it returns.  Once the flag is set, what all threads together can
still do is bounded, and nothing but a peer can hold it up.
-/

namespace OpticalPathPlanner

/-- Where the accept loop stands. -/
inductive LoopPhase
  /-- Before the test of the flag. -/
  | polling
  /-- In `select`. -/
  | selecting
  /-- In `accept`, behind a second test of the flag. -/
  | accepting
  /-- Behind the loop, with its listener still open. -/
  | leaving
  | joining
  | returned
deriving DecidableEq, Repr

/-- Where the worker of a connection stands, with the frame it has in hand. -/
inductive WorkerPhase
  | polling
  | selecting
  /-- In `ReadFrame`. -/
  | reading
  | handling (frame : Frame)
  | sending (response : Frame)
  | acknowledging (ack : Frame)
  | refusing (refusal : Frame)
  /-- Behind the loop, with its socket still open. -/
  | closing
  | ended
deriving DecidableEq, Repr

/-- What the worker of a connection does next. -/
inductive ServingStep
  | check
  /-- `select` returns, with something to read or not. -/
  | select (ready : Bool)
  | read (result : Except Status Frame)
  | handle (faults : FrameFaults)
  | send (sent : Bool)
  | close

/-- The service and its threads. -/
structure ServingThreads (K : Type) where
  service : ServiceState K
  loop : LoopPhase := .polling
  workers : List WorkerPhase := []

inductive ThreadEvent
  | check
  | select (ready : Bool)
  | accept (connected : Bool)
  | close
  | join
  | serve (worker : Nat) (step : ServingStep)
  /-- `Shutdown` is called from outside. -/
  | shutdown

/-- The worker leaves `ReadFrame`. -/
def ServingStep.reads : ServingStep → Bool
  | .read _ => true
  | _ => false

/-- The step waits for what the peer sends or takes. -/
def ServingStep.byPeer : ServingStep → Bool
  | .read _ | .send _ => true
  | _ => false

namespace ThreadEvent

/-- The event is a step of one of the threads. -/
def ofThread : ThreadEvent → Bool
  | .shutdown => false
  | _ => true

/-- A connection is taken up, or a peer that tried is gone. -/
def accepts : ThreadEvent → Bool
  | .accept _ => true
  | _ => false

def reads : ThreadEvent → Bool
  | .serve _ step => step.reads
  | _ => false

/-- The event waits for what a peer sends, takes or gives up. -/
def byPeer : ThreadEvent → Bool
  | .accept _ => true
  | .serve _ step => step.byPeer
  | _ => false

end ThreadEvent

section ServingThreads

variable {K : Type} [Field K] [LinearOrder K] {runtime : Runtime K}
  (numbers : DoubleText runtime.formatDouble) (options : ServiceOptions)

namespace ServiceState

variable (service : ServiceState K)

/-- A step of `ServeConnection`. -/
def serveConnection : WorkerPhase → ServingStep → Option (ServiceState K × WorkerPhase)
  | .polling, .check => some (service, if service.stopping then .closing else .selecting)
  | .selecting, .select ready =>
      some (service, if service.stopping then .closing
        else if ready then .reading else .polling)
  | .reading, .read (.ok frame) => some (service, .handling frame)
  | .reading, .read (.error status) =>
      some (service, if status.code = .ioFailure then .closing
        else .refusing (makeFailureFrame 0 service.incarnation.epoch status))
  | .handling frame, .handle faults =>
      if frame.kind = RequestKind.shutdown.message then
        some ({ service with stats := { service.stats with
            framesHandled := service.stats.framesHandled + 1 } },
          .acknowledging ⟨RequestKind.shutdown.ack, frame.sequence,
            service.incarnation.epoch, []⟩)
      else
        let served := service.serveFrame numbers options faults frame
        some (served.2, .sending served.1)
  | .sending _, .send sent => some (service, if sent then .polling else .closing)
  | .acknowledging _, .send _ => some (service.stopConnections, .closing)
  | .refusing _, .send _ =>
      some ({ service with stats := { service.stats with
        framesRejected := service.stats.framesRejected + 1 } }, .closing)
  | .closing, .close => some (service, .ended)
  | _, _ => none

end ServiceState

namespace ServingThreads

variable (threads : ServingThreads K)

/-- The loop behind `accept`. -/
def accept (connected : Bool) : ServingThreads K :=
  if !connected then
    { threads with loop := if threads.service.stopping then .leaving else .polling }
  else if options.maxConnections.toNat ≤ threads.workers.length then
    { threads with
      loop := .polling
      service := { threads.service with stats := { threads.service.stats with
        framesRejected := threads.service.stats.framesRejected + 1 } } }
  else
    { loop := .polling
      service := { threads.service with stats := { threads.service.stats with
        connectionsAccepted := threads.service.stats.connectionsAccepted + 1 } }
      workers := threads.workers ++ [.polling] }

/-- The threads after an event, if the event can happen. -/
def after : ThreadEvent → Option (ServingThreads K)
  | .check =>
      if threads.loop = .polling then
        some { threads with
          loop := if threads.service.stopping then .leaving else .selecting }
      else none
  | .select ready =>
      if threads.loop = .selecting then
        some { threads with
          loop := if threads.service.stopping then .leaving
            else if ready then .accepting else .polling }
      else none
  | .accept connected =>
      if threads.loop = .accepting then some (threads.accept options connected)
      else none
  | .close =>
      if threads.loop = .leaving then some { threads with loop := .joining } else none
  | .join =>
      if threads.loop = .joining ∧ ∀ worker ∈ threads.workers, worker = .ended then
        some { threads with loop := .returned }
      else none
  | .serve worker step =>
      threads.workers[worker]?.bind fun phase =>
        (threads.service.serveConnection numbers options phase step).map fun served =>
          { threads with
            service := served.1
            workers := threads.workers.set worker served.2 }
  | .shutdown => some { threads with service := threads.service.stopConnections }

def run (events : List ThreadEvent) : Option (ServingThreads K) :=
  events.foldlM (after numbers options) threads

end ServingThreads

end ServingThreads

/-! ### What is left to do -/

namespace LoopPhase

/-- How many steps the loop and a worker it may still start have left, once the
service is stopping. -/
def rank : LoopPhase → Nat
  | .returned => 0
  | .joining => 1
  | .leaving => 2
  | .polling | .selecting => 3
  | .accepting => 6

end LoopPhase

namespace WorkerPhase

/-- How many steps the worker has left, once the service is stopping. -/
def rank : WorkerPhase → Nat
  | .ended => 0
  | .closing => 1
  | .polling | .selecting => 2
  | .sending _ | .acknowledging _ | .refusing _ => 3
  | .handling _ => 4
  | .reading => 5

/-- The worker waits for its peer. -/
def waits : WorkerPhase → Bool
  | .reading | .sending _ | .acknowledging _ | .refusing _ => true
  | _ => false

end WorkerPhase

namespace ServingThreads

variable {K : Type} {threads next final : ServingThreads K}

def rank (threads : ServingThreads K) : Nat :=
  threads.loop.rank + (threads.workers.map WorkerPhase.rank).sum

/-- How many connections the loop may still take up. -/
def unaccepted (threads : ServingThreads K) : Nat :=
  if threads.loop = .accepting then 1 else 0

/-- How many workers are at a frame of their peer. -/
def unread (threads : ServingThreads K) : Nat :=
  (threads.workers.map fun worker => if worker = .reading then 1 else 0).sum

/-- Every thread that has not returned waits for a peer, or for such a thread. -/
structure Stalled (threads : ServingThreads K) : Prop where
  workers : ∀ worker ∈ threads.workers, worker.waits ∨ worker = .ended
  loop : threads.loop = .accepting ∨
    threads.loop = .joining ∧ ∃ worker ∈ threads.workers, worker.waits

/-- What holds of the threads of every service. -/
structure Joined (options : ServiceOptions) (threads : ServingThreads K) : Prop where
  bounded : threads.workers.length ≤ options.maxConnections.toNat
  ended : threads.loop = .returned → ∀ worker ∈ threads.workers, worker = .ended

theorem sum_map_set (weight : WorkerPhase → Nat) {workers : List WorkerPhase} {worker : Nat}
    {phase : WorkerPhase} (there : workers[worker]? = some phase) (other : WorkerPhase) :
    ((workers.set worker other).map weight).sum + weight phase =
      (workers.map weight).sum + weight other := by
  induction workers generalizing worker with
  | nil => simp at there
  | cons first rest ih =>
      cases worker with
      | zero =>
          obtain rfl : first = phase := by simpa using there
          simp only [List.set_cons_zero, List.map_cons, List.sum_cons]
          omega
      | succ worker =>
          have later : ((rest.set worker other).map weight).sum + weight phase = _ :=
            ih (by simpa using there)
          simp only [List.set_cons_succ, List.map_cons, List.sum_cons]
          omega

theorem rank_le (threads : ServingThreads K) :
    threads.rank ≤ 6 + 5 * threads.workers.length := by
  have ofLoop : threads.loop.rank ≤ 6 := by
    cases threads.loop <;> decide
  have ofWorkers : (threads.workers.map WorkerPhase.rank).sum ≤
      (threads.workers.map WorkerPhase.rank).length • 5 := by
    refine List.sum_le_card_nsmul _ _ fun bound inside => ?_
    obtain ⟨worker, -, rfl⟩ := List.mem_map.mp inside
    cases worker <;> simp [WorkerPhase.rank]
  rw [List.length_map, smul_eq_mul] at ofWorkers
  rw [rank]
  omega

variable [Field K] [LinearOrder K] {runtime : Runtime K}
  {numbers : DoubleText runtime.formatDouble} {options : ServiceOptions}
  {service : ServiceState K} {events : List ThreadEvent} {event : ThreadEvent}

/-- Under the flag a worker only goes on to its end, and reads no further frame. -/
theorem serveConnection_drains {phase : WorkerPhase} {step : ServingStep}
    {served : ServiceState K × WorkerPhase} (stopping : service.stopping = true)
    (happened : service.serveConnection numbers options phase step = some served) :
    served.1.stopping = true ∧ served.2.rank < phase.rank ∧
      served.2 ≠ .reading ∧ (step.reads = true → phase = .reading) := by
  unfold ServiceState.serveConnection at happened
  split at happened
  · cases happened
    simp [stopping, WorkerPhase.rank, ServingStep.reads]
  · cases happened
    simp [stopping, WorkerPhase.rank, ServingStep.reads]
  · cases happened
    simp [stopping, WorkerPhase.rank]
  · cases happened
    split_ifs <;> simp [stopping, WorkerPhase.rank]
  · split_ifs at happened
    · cases happened
      simp [stopping, WorkerPhase.rank, ServingStep.reads]
    · cases happened
      simpa [WorkerPhase.rank, ServingStep.reads] using
        (ServiceState.serveFrame_evolves numbers options service _ _).stopping stopping
  · cases happened
    split_ifs <;> simp [stopping, WorkerPhase.rank, ServingStep.reads]
  · cases happened
    simp [ServiceState.stopConnections, WorkerPhase.rank, ServingStep.reads]
  · cases happened
    simp [stopping, WorkerPhase.rank, ServingStep.reads]
  · cases happened
    simp [stopping, WorkerPhase.rank, ServingStep.reads]
  · cases happened

/-- What a step of the threads takes of what is left, under the flag. -/
structure Drains (event : ThreadEvent) (threads next : ServingThreads K) : Prop where
  stopping : next.service.stopping = true
  rank : next.rank + (if event.ofThread then 1 else 0) ≤ threads.rank
  unaccepted : next.unaccepted + (if event.accepts then 1 else 0) ≤ threads.unaccepted
  unread : next.unread + (if event.reads then 1 else 0) ≤ threads.unread

omit [Field K] [LinearOrder K] in
theorem accept_drains (stopping : threads.service.stopping = true)
    (accepting : threads.loop = .accepting) (connected : Bool) :
    Drains (.accept connected) threads (threads.accept options connected) := by
  unfold accept
  split_ifs
  all_goals constructor <;>
    simp [stopping, accepting, rank, unaccepted, unread, LoopPhase.rank, WorkerPhase.rank,
      ThreadEvent.ofThread, ThreadEvent.accepts, ThreadEvent.reads]
  all_goals omega

omit [Field K] [LinearOrder K] in
/-- A step of the loop that keeps the workers. -/
theorem Drains.of_loop {loop : LoopPhase} (stopping : threads.service.stopping = true)
    (lower : loop.rank < threads.loop.rank) (behind : loop ≠ .accepting)
    (accepts : event.accepts = false) (reads : event.reads = false) :
    Drains event threads { threads with loop } := by
  refine ⟨stopping, ?rank, ?unaccepted, ?unread⟩
  case rank =>
    simp only [ServingThreads.rank]
    split_ifs <;> omega
  case unaccepted => simp [ServingThreads.unaccepted, behind, accepts]
  case unread => simp [ServingThreads.unread, reads]

theorem after_drains (stopping : threads.service.stopping = true)
    (happened : threads.after numbers options event = some next) :
    Drains event threads next := by
  cases event with
  | check =>
      simp only [after, stopping, if_true, Option.ite_none_right_eq_some,
        Option.some.injEq] at happened
      obtain ⟨phase, rfl⟩ := happened
      exact .of_loop stopping (by simp [phase, LoopPhase.rank]) (by decide) rfl rfl
  | select ready =>
      simp only [after, stopping, if_true, Option.ite_none_right_eq_some,
        Option.some.injEq] at happened
      obtain ⟨phase, rfl⟩ := happened
      exact .of_loop stopping (by simp [phase, LoopPhase.rank]) (by decide) rfl rfl
  | accept connected =>
      simp only [after, Option.ite_none_right_eq_some, Option.some.injEq] at happened
      obtain ⟨phase, rfl⟩ := happened
      exact accept_drains stopping phase connected
  | close =>
      simp only [after, Option.ite_none_right_eq_some, Option.some.injEq] at happened
      obtain ⟨phase, rfl⟩ := happened
      exact .of_loop stopping (by simp [phase, LoopPhase.rank]) (by decide) rfl rfl
  | join =>
      simp only [after, Option.ite_none_right_eq_some, Option.some.injEq] at happened
      obtain ⟨⟨phase, -⟩, rfl⟩ := happened
      exact .of_loop stopping (by simp [phase, LoopPhase.rank]) (by decide) rfl rfl
  | serve worker step =>
      simp only [after, Option.bind_eq_some_iff, Option.map_eq_some_iff] at happened
      obtain ⟨phase, there, served, done, rfl⟩ := happened
      obtain ⟨still, lower, notReading, wasReading⟩ := serveConnection_drains stopping done
      have ranks := sum_map_set WorkerPhase.rank there served.2
      have reading := sum_map_set (fun worker => if worker = .reading then 1 else 0)
        there served.2
      refine ⟨still, ?rank, ?unaccepted, ?unread⟩
      case rank =>
        simp only [rank, ThreadEvent.ofThread, if_true]
        omega
      case unaccepted =>
        simp [unaccepted, ThreadEvent.accepts]
      case unread =>
        rw [if_neg notReading] at reading
        simp only [unread]
        by_cases reads : (ThreadEvent.serve worker step).reads = true
        · rw [if_pos (wasReading reads)] at reading
          rw [if_pos reads]
          omega
        · rw [if_neg reads]
          omega
  | shutdown =>
      simp only [after, Option.some.injEq] at happened
      rw [← happened]
      exact ⟨rfl, Nat.le_refl _, Nat.le_refl _, Nat.le_refl _⟩

/-! ### What can happen -/

omit [Field K] [LinearOrder K] in
theorem accept_joined (joined : threads.Joined options) (connected : Bool) :
    (threads.accept options connected).Joined options := by
  obtain ⟨bounded, -⟩ := joined
  unfold accept
  split_ifs with gone stopping full
  · exact ⟨bounded, by simp⟩
  · exact ⟨bounded, by simp⟩
  · exact ⟨bounded, by simp⟩
  · refine ⟨?_, by simp⟩
    rw [List.length_append, List.length_singleton]
    omega

theorem Joined.after (joined : threads.Joined options)
    (happened : threads.after numbers options event = some next) :
    next.Joined options := by
  obtain ⟨bounded, ended⟩ := joined
  cases event with
  | check | select =>
      simp only [ServingThreads.after, Option.ite_none_right_eq_some,
        Option.some.injEq] at happened
      obtain ⟨phase, rfl⟩ := happened
      refine ⟨bounded, fun returned => ?_⟩
      simp only at returned
      split_ifs at returned
  | close =>
      simp only [ServingThreads.after, Option.ite_none_right_eq_some,
        Option.some.injEq] at happened
      exact happened.2 ▸ ⟨bounded, by simp⟩
  | accept connected =>
      simp only [ServingThreads.after, Option.ite_none_right_eq_some,
        Option.some.injEq] at happened
      exact happened.2 ▸ accept_joined ⟨bounded, ended⟩ connected
  | join =>
      simp only [ServingThreads.after, Option.ite_none_right_eq_some,
        Option.some.injEq] at happened
      obtain ⟨⟨-, all⟩, rfl⟩ := happened
      exact ⟨bounded, fun _ => all⟩
  | serve worker step =>
      simp only [ServingThreads.after, Option.bind_eq_some_iff,
        Option.map_eq_some_iff] at happened
      obtain ⟨phase, there, served, done, rfl⟩ := happened
      refine ⟨by simpa using bounded, fun returned => ?_⟩
      -- A worker that has ended takes no step.
      obtain rfl : phase = .ended := ended returned phase (List.mem_of_getElem? there)
      cases done
  | shutdown =>
      simp only [ServingThreads.after, Option.some.injEq] at happened
      exact happened ▸ ⟨bounded, ended⟩

/-- A worker that has not ended can take a step, of its own unless it waits. -/
theorem exists_serveConnection (numbers : DoubleText runtime.formatDouble)
    (options : ServiceOptions) (service : ServiceState K) {phase : WorkerPhase}
    (running : phase ≠ .ended) :
    ∃ step served, step.byPeer = phase.waits ∧
      service.serveConnection numbers options phase step = some served := by
  cases phase with
  | polling => exact ⟨.check, _, rfl, rfl⟩
  | selecting => exact ⟨.select false, _, rfl, rfl⟩
  | reading => exact ⟨.read (.error okStatus), _, rfl, rfl⟩
  | handling frame =>
      by_cases shutdown : frame.kind = RequestKind.shutdown.message
      · exact ⟨.handle {}, _, rfl, if_pos shutdown⟩
      · exact ⟨.handle {}, _, rfl, if_neg shutdown⟩
  | sending response => exact ⟨.send true, _, rfl, rfl⟩
  | acknowledging ack => exact ⟨.send true, _, rfl, rfl⟩
  | refusing refusal => exact ⟨.send true, _, rfl, rfl⟩
  | closing => exact ⟨.close, _, rfl, rfl⟩
  | ended => exact absurd rfl running

theorem waits_of_serveConnection {phase : WorkerPhase} {step : ServingStep}
    {served : ServiceState K × WorkerPhase} (alone : step.byPeer = false)
    (happened : service.serveConnection numbers options phase step = some served) :
    phase.waits = false ∧ phase ≠ .ended := by
  cases phase with
  | reading | sending | acknowledging | refusing =>
      cases step with
      | read | send => cases alone
      | check | select | handle | close => cases happened
  | ended => cases happened
  | polling | selecting | handling | closing => exact ⟨rfl, by simp⟩

theorem exists_after_serve (numbers : DoubleText runtime.formatDouble)
    (options : ServiceOptions) {worker : WorkerPhase} (there : worker ∈ threads.workers)
    (running : worker ≠ .ended) :
    ∃ event next, event.ofThread = true ∧ event.byPeer = worker.waits ∧
      threads.after numbers options event = some next := by
  obtain ⟨position, found⟩ := List.getElem?_of_mem there
  obtain ⟨step, served, waits, done⟩ :=
    exists_serveConnection numbers options threads.service running
  refine ⟨.serve position step, { threads with
    service := served.1
    workers := threads.workers.set position served.2 }, rfl, waits, ?_⟩
  simp only [after, found, Option.bind_some, done, Option.map_some]

/-- Short of the joins, the loop can always take a step. -/
theorem exists_after_loop (numbers : DoubleText runtime.formatDouble)
    (options : ServiceOptions) (running : threads.loop ≠ .joining)
    (left : threads.loop ≠ .returned) :
    ∃ event next, event.ofThread = true ∧
      event.byPeer = decide (threads.loop = .accepting) ∧
      threads.after numbers options event = some next := by
  cases phase : threads.loop with
  | polling => exact ⟨.check, _, rfl, rfl, if_pos phase⟩
  | selecting => exact ⟨.select false, _, rfl, rfl, if_pos phase⟩
  | accepting => exact ⟨.accept false, _, rfl, rfl, if_pos phase⟩
  | leaving => exact ⟨.close, _, rfl, rfl, if_pos phase⟩
  | joining => exact absurd phase running
  | returned => exact absurd phase left

/-- Until the loop has returned, some thread can go on, if its peer lets it. -/
theorem exists_after (numbers : DoubleText runtime.formatDouble)
    (options : ServiceOptions) (left : threads.loop ≠ .returned) :
    ∃ event next, event.ofThread = true ∧
      threads.after numbers options event = some next := by
  by_cases joining : threads.loop = .joining
  · by_cases ended : ∀ worker ∈ threads.workers, worker = .ended
    · exact ⟨.join, _, rfl, if_pos ⟨joining, ended⟩⟩
    · push Not at ended
      obtain ⟨worker, there, running⟩ := ended
      obtain ⟨event, next, ofThread, -, happened⟩ :=
        exists_after_serve numbers options there running
      exact ⟨event, next, ofThread, happened⟩
  · obtain ⟨event, next, ofThread, -, happened⟩ :=
      exists_after_loop numbers options joining left
    exact ⟨event, next, ofThread, happened⟩

/-- Some thread can take a step that needs no peer, exactly if the loop has not
returned and the service is not stalled. -/
theorem exists_after_iff (joined : threads.Joined options) :
    (∃ event next, event.ofThread = true ∧ event.byPeer = false ∧
      threads.after numbers options event = some next) ↔
        threads.loop ≠ .returned ∧ ¬ threads.Stalled := by
  constructor
  · rintro ⟨event, next, ofThread, alone, happened⟩
    cases event with
    | check | select | close =>
        simp only [after, Option.ite_none_right_eq_some] at happened
        refine ⟨by simp [happened.1], fun stalled => ?_⟩
        simpa [happened.1] using stalled.loop
    | accept connected => cases alone
    | join =>
        simp only [after, Option.ite_none_right_eq_some] at happened
        obtain ⟨⟨phase, all⟩, -⟩ := happened
        refine ⟨by simp [phase], fun stalled => ?_⟩
        rcases stalled.loop with accepting | ⟨-, worker, there, waits⟩
        · simp [phase] at accepting
        · simp [all worker there, WorkerPhase.waits] at waits
    | serve worker step =>
        simp only [after, Option.bind_eq_some_iff, Option.map_eq_some_iff] at happened
        obtain ⟨phase, found, served, done, -⟩ := happened
        obtain ⟨moving, running⟩ := waits_of_serveConnection alone done
        have there := List.mem_of_getElem? found
        refine ⟨fun returned => running (joined.ended returned phase there),
          fun stalled => ?_⟩
        rcases stalled.workers phase there with waits | ended
        · rw [moving] at waits
          cases waits
        · exact running ended
    | shutdown => cases ofThread
  · rintro ⟨left, moving⟩
    by_cases idle : ∀ worker ∈ threads.workers, worker.waits ∨ worker = .ended
    · by_cases joining : threads.loop = .joining
      · -- With a worker that waits the service would be stalled.
        have ended : ∀ worker ∈ threads.workers, worker = .ended := fun worker there =>
          (idle worker there).resolve_left fun waits =>
            moving ⟨idle, .inr ⟨joining, worker, there, waits⟩⟩
        exact ⟨.join, _, rfl, rfl, if_pos ⟨joining, ended⟩⟩
      · obtain ⟨event, next, ofThread, byPeer, happened⟩ :=
          exists_after_loop numbers options joining left
        refine ⟨event, next, ofThread, ?_, happened⟩
        rw [byPeer, decide_eq_false_iff_not]
        exact fun accepting => moving ⟨idle, .inl accepting⟩
    · push Not at idle
      obtain ⟨worker, there, moves, running⟩ := idle
      obtain ⟨event, next, ofThread, byPeer, happened⟩ :=
        exists_after_serve numbers options there running
      exact ⟨event, next, ofThread, byPeer.trans (by simpa using moves), happened⟩

/-! ### The drain -/

/-- Once the flag is set, in every run of a service: the threads take at most six
steps and five for every connection, take up at most one more connection, and read
no more frames than workers were at; the loop returns behind all workers only; only
peers can hold the threads up; and they can always be brought to their end. -/
theorem shutdown_drains (numbers : DoubleText runtime.formatDouble)
    (options : ServiceOptions) (service : ServiceState K)
    (before events : List ThreadEvent) (threads final : ServingThreads K)
    (reached : run numbers options { service } before = some threads)
    (stopping : threads.service.stopping = true)
    (ran : threads.run numbers options events = some final) :
    events.countP ThreadEvent.ofThread ≤ 6 + 5 * options.maxConnections.toNat ∧
      events.countP ThreadEvent.accepts ≤ 1 ∧
      events.countP ThreadEvent.reads ≤ threads.unread ∧
      (final.loop = .returned → ∀ worker ∈ final.workers, worker = .ended) ∧
      ((∃ event next, event.ofThread = true ∧ event.byPeer = false ∧
        final.after numbers options event = some next) ↔
          final.loop ≠ .returned ∧ ¬ final.Stalled) ∧
      ∃ more last, final.run numbers options more = some last ∧
        last.loop = .returned := by
  have start : Joined options { service } := ⟨by simp, by simp⟩
  have joined : threads.Joined options :=
    Runs.invariant _ (fun _ _ _ joined happened => joined.after happened) start reached
  have ended : final.Joined options :=
    Runs.invariant _ (fun _ _ _ joined happened => joined.after happened) joined ran
  have drains : ∀ (state : ServingThreads K) event next, state.service.stopping = true →
      state.after numbers options event = some next → Drains event state next :=
    fun _ _ _ => after_drains
  have steps := Runs.budget ThreadEvent.ofThread rank (fun state event next stopping
    happened => have drained := drains state event next stopping happened
      ⟨drained.stopping, drained.rank⟩) stopping ran
  have accepted := Runs.budget ThreadEvent.accepts unaccepted (fun state event next
    stopping happened => have drained := drains state event next stopping happened
      ⟨drained.stopping, drained.unaccepted⟩) stopping ran
  have read := Runs.budget ThreadEvent.reads unread (fun state event next stopping
    happened => have drained := drains state event next stopping happened
      ⟨drained.stopping, drained.unread⟩) stopping ran
  have still : final.service.stopping = true :=
    Runs.invariant (fun state : ServingThreads K => state.service.stopping = true)
      (fun state event next stopping happened =>
        (drains state event next stopping happened).stopping) stopping ran
  have most := threads.rank_le
  have once : threads.unaccepted ≤ 1 := by
    unfold unaccepted
    split_ifs <;> omega
  have bounded := joined.bounded
  refine ⟨by omega, by omega, by omega, ended.ended, exists_after_iff ended, ?_⟩
  refine Runs.reaches (fun state : ServingThreads K => state.loop = .returned) rank
    (fun state (stopping : state.service.stopping = true) left => ?_) still
  obtain ⟨event, next, ofThread, happened⟩ := exists_after numbers options left
  have drained := drains state event next stopping happened
  refine ⟨event, next, happened, drained.stopping, ?_⟩
  have lower := drained.rank
  rw [if_pos ofThread] at lower
  omega

/-- A service whose only peer stops in the middle of a frame: told to stop, it
waits for the rest of it. -/
theorem shutdown_drains_stalled :
    ∃ threads, run wholeNumbers { store := { root := text "state" } }
        { service := { incarnation := ⟨⟨⟨1⟩, 0, 7⟩, 1, true⟩ } }
        [.check, .select true, .accept true, .serve 0 .check, .serve 0 (.select true),
          .shutdown, .check, .close] = some threads ∧
      threads.Stalled ∧ ∃ more last, threads.run wholeNumbers
          { store := { root := text "state" } } more = some last ∧
        last.loop = .returned := by
  refine ⟨_, rfl, ⟨by decide, .inr ⟨rfl, by decide⟩⟩, ?_⟩
  exact (shutdown_drains wholeNumbers { store := { root := text "state" } }
    { incarnation := ⟨⟨⟨1⟩, 0, 7⟩, 1, true⟩ }
    [.check, .select true, .accept true, .serve 0 .check, .serve 0 (.select true),
      .shutdown, .check, .close] [] _ _ rfl rfl rfl).2.2.2.2.2

end ServingThreads

end OpticalPathPlanner
