import OpticalPathPlanner.Service

/-!
# Connections of the service

The accept loop keeps a thread for every connection it has accepted and a
handle for every connection that is still served.  A handle leaves its table
when its connection ends, a thread stays until the loop itself is left.  The
loop refuses connections by the number of threads, so the bound on connections
counts those that are served only as long as none of them has ended.
-/

namespace OpticalPathPlanner

abbrev SocketHandle := Nat

/-- The service together with what the accept loop keeps of connections. -/
structure ListeningService (K : Type) where
  service : ServiceState K
  /-- The connections that a thread was started for. -/
  workers : List SocketHandle := []
  /-- The connections that are served. -/
  activeConnections : List SocketHandle := []

/-- What may happen to a service that listens. -/
inductive ConnectionEvent
  /-- A client connects, and the system gives the connection a free handle. -/
  | connect (handle : SocketHandle)
  /-- A frame arrives on a connection. -/
  | frame (handle : SocketHandle) (faults : FrameFaults) (frame : Frame)
  /-- A connection ends, because of a frame that could not be read or not. -/
  | finish (handle : SocketHandle) (unreadable : Bool)
  /-- `Shutdown` is called from outside. -/
  | shutdown

namespace ConnectionEvent

def connects : ConnectionEvent → Bool
  | .connect _ => true
  | _ => false

def finishes : ConnectionEvent → Bool
  | .finish _ _ => true
  | _ => false

end ConnectionEvent

/-- What a client is told that is one too many. -/
def connectionRefusal : Frame where
  kind := .failure
  sequence := 0
  epochPin := 0
  payload := encodeFailure ⟨StatusCode.exhausted.number,
    text "the service has reached its connection bound"⟩

section ListeningService

variable {K : Type} [Field K] [LinearOrder K] {runtime : Runtime K}
  (numbers : DoubleText runtime.formatDouble) (options : ServiceOptions)

namespace ListeningService

variable (listening : ListeningService K)

/-- The test of the accept loop. -/
def refuses : Bool := decide (options.maxConnections.toNat ≤ listening.workers.length)

/-- How the loop answers a new connection, if at all, and what it keeps. -/
def accept (handle : SocketHandle) : Option Frame × ListeningService K :=
  if listening.refuses options then
    (some connectionRefusal, { listening with service := { listening.service with
      stats := { listening.service.stats with
        framesRejected := listening.service.stats.framesRejected + 1 } } })
  else
    (none, {
      service := { listening.service with stats := { listening.service.stats with
        connectionsAccepted := listening.service.stats.connectionsAccepted + 1 } }
      workers := listening.workers ++ [handle]
      activeConnections := listening.activeConnections ++ [handle] })

/-- The end of `ServeConnection`. -/
def finish (handle : SocketHandle) (unreadable : Bool) : ListeningService K :=
  { listening with
    service := if unreadable then
        { listening.service with stats := { listening.service.stats with
          framesRejected := listening.service.stats.framesRejected + 1 } }
      else listening.service
    activeConnections := listening.activeConnections.erase handle }

/-- The service after an event, if the event can happen. -/
def after : ConnectionEvent → Option (ListeningService K)
  | .connect handle =>
      if listening.service.stopping ∨ handle ∈ listening.activeConnections then none
      else some (listening.accept options handle).2
  | .frame handle faults frame =>
      if handle ∈ listening.activeConnections then
        some { listening with service :=
          (listening.service.serveFrame numbers options faults frame).2 }
      else none
  | .finish handle unreadable =>
      if handle ∈ listening.activeConnections then
        some (listening.finish handle unreadable)
      else none
  | .shutdown => some { listening with service := listening.service.stopConnections }

def run (events : List ConnectionEvent) : Option (ListeningService K) :=
  events.foldlM (after numbers options) listening

end ListeningService

end ListeningService

/-! ### The tables of a run -/

namespace ListeningService

variable {K : Type} {options : ServiceOptions} {service : ServiceState K}
  {listening next : ListeningService K} {events : List ConnectionEvent}
  {event : ConnectionEvent}

/-- How long the tables are after the events. -/
structure Counted (options : ServiceOptions) (events : List ConnectionEvent)
    (listening : ListeningService K) : Prop where
  workers : listening.workers.length =
    min options.maxConnections.toNat (events.countP ConnectionEvent.connects)
  active : listening.activeConnections.length +
    events.countP ConnectionEvent.finishes = listening.workers.length

theorem Counted.initial : Counted options [] { service := service } :=
  ⟨by simp, rfl⟩

theorem Counted.accept (counted : Counted options events listening)
    (handle : SocketHandle) :
    Counted options (events ++ [.connect handle])
      (listening.accept options handle).2 := by
  obtain ⟨workers, active⟩ := counted
  by_cases full : options.maxConnections.toNat ≤ listening.workers.length
  · rw [ListeningService.accept, if_pos (by simpa [refuses] using full)]
    constructor
    case workers => simp [ConnectionEvent.connects]; omega
    case active => simpa [ConnectionEvent.finishes] using active
  · rw [ListeningService.accept, if_neg (by simpa [refuses] using full)]
    constructor
    case workers => simp [ConnectionEvent.connects]; omega
    case active => simp [ConnectionEvent.finishes]; omega

theorem Counted.finish (counted : Counted options events listening)
    {handle : SocketHandle} {unreadable : Bool}
    (served : handle ∈ listening.activeConnections) :
    Counted options (events ++ [.finish handle unreadable])
      (listening.finish handle unreadable) := by
  have shorter := List.length_erase_of_mem served
  have nonempty := List.length_pos_of_mem served
  constructor
  case workers => simpa [ListeningService.finish, ConnectionEvent.connects] using
    counted.workers
  case active =>
    have active := counted.active
    simp [ListeningService.finish, ConnectionEvent.finishes]
    omega

variable [Field K] [LinearOrder K] {runtime : Runtime K}
  {numbers : DoubleText runtime.formatDouble}

theorem Counted.after (counted : Counted options events listening)
    (happened : listening.after numbers options event = some next) :
    Counted options (events ++ [event]) next := by
  cases event with
  | connect handle =>
      simp only [ListeningService.after, Option.ite_none_left_eq_some,
        Option.some.injEq] at happened
      exact happened.2 ▸ counted.accept handle
  | frame handle faults frame =>
      simp only [ListeningService.after, Option.ite_none_right_eq_some,
        Option.some.injEq] at happened
      rw [← happened.2]
      exact ⟨by simpa [ConnectionEvent.connects] using counted.workers,
        by simpa [ConnectionEvent.finishes] using counted.active⟩
  | finish handle unreadable =>
      simp only [ListeningService.after, Option.ite_none_right_eq_some,
        Option.some.injEq] at happened
      exact happened.2 ▸ counted.finish happened.1
  | shutdown =>
      simp only [ListeningService.after, Option.some.injEq] at happened
      rw [← happened]
      exact ⟨by simpa [ConnectionEvent.connects] using counted.workers,
        by simpa [ConnectionEvent.finishes] using counted.active⟩

theorem Counted.run (ran : run numbers options { service := service } events =
    some listening) : Counted options events listening := by
  induction events using List.reverseRecOn generalizing listening with
  | nil =>
      obtain rfl : { service := service } = listening := Option.some.inj ran
      exact .initial
  | append_singleton events event ih =>
      rw [ListeningService.run, List.foldlM_append, Option.bind_eq_bind,
        Option.bind_eq_some_iff] at ran
      obtain ⟨before, ranBefore, happened⟩ := ran
      exact (ih ranBefore).after (by simpa using happened)

/-! ### The bound -/

/-- A new connection is refused exactly if as many as allowed are served. -/
def BoundsActive (options : ServiceOptions) (listening : ListeningService K) : Prop :=
  listening.refuses options = true ↔
    listening.activeConnections.length = options.maxConnections.toNat

/-- The bound counts the connections that are served exactly as long as fewer
than it allows were opened, or none of them has ended. -/
theorem boundsActive_iff (numbers : DoubleText runtime.formatDouble)
    (options : ServiceOptions) (service : ServiceState K)
    (events : List ConnectionEvent) (listening : ListeningService K)
    (ran : run numbers options { service := service } events = some listening) :
    BoundsActive options listening ↔
      events.countP ConnectionEvent.connects < options.maxConnections.toNat ∨
        events.countP ConnectionEvent.finishes = 0 := by
  obtain ⟨workers, active⟩ := Counted.run ran
  rw [BoundsActive, refuses, decide_eq_true_iff]
  omega

/-- A service that serves one connection at a time. -/
def lone : ListeningService ℚ where
  service := { incarnation := ⟨⟨⟨1⟩, 0, 7⟩, 1, true⟩ }

def loneOptions : ServiceOptions :=
  { store := { root := text "state" }, maxConnections := 1 }

theorem boundsActive_iff_open :
    ∃ listening, run wholeNumbers loneOptions lone [.connect 4] = some listening ∧
      BoundsActive loneOptions listening :=
  ⟨_, rfl, (boundsActive_iff wholeNumbers loneOptions lone.service [.connect 4]
    _ rfl).mpr (.inr rfl)⟩

/-- Once its only connection has ended, the service serves none and still
refuses the next one. -/
theorem boundsActive_not_closed :
    ∃ listening,
      run wholeNumbers loneOptions lone [.connect 4, .finish 4 false] =
        some listening ∧
      listening.service.stopping = false ∧
      listening.activeConnections = [] ∧
      (listening.accept loneOptions 4).1 = some connectionRefusal ∧
      ¬ BoundsActive loneOptions listening := by
  refine ⟨_, rfl, rfl, rfl, by decide, ?_⟩
  unfold BoundsActive
  decide

end ListeningService

end OpticalPathPlanner
