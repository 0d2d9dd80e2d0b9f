import Aeon.JobStream

namespace Aeon.Server

/-!
# The conversation service

`ConversationService` accepts jobs from any thread, runs them one at a time on
the worker thread (`run_worker`) and drains what is left when it stops.  The
state below holds what its critical sections and atomic stores read and write;
one step is one critical section, one atomic store, or one call on a job's
stream.  The bookkeeping read only by `snapshot` is left out.
-/

open Drain (WorkerCall isTerminal)

/-- `ConversationService::State`. -/
inductive ServiceState where
  | loading
  | ready
  | stopping
  deriving Repr, DecidableEq

/-- What `submit` throws. -/
inductive SubmitError where
  | notReady
  | queueFull
  deriving Repr, DecidableEq

/-- A `Finished` or `Failed` event. -/
abbrev TerminalEvent := { event : JobEvent // isTerminal event = true }

/-- `cancelled_result`. -/
def cancelledResult : ConversationResult :=
  { stop := .cancelled }

/-- The event a drained job is given. -/
def cancelledEvent : TerminalEvent :=
  ⟨.finished cancelledResult, rfl⟩

/--
A drain loop over jobs swapped out of the queue.  `pushed` tells that the first
job has had its event and its `close` is next.
-/
structure DrainLoop where
  pending : List Nat
  pushed : Bool := false
  deriving Repr, DecidableEq

/-- Where `run_worker` stands, with its local variables. -/
inductive Worker where
  | publishReady
  | take
  | loadCancel (job : Nat)
  | engineRun (job : Nat)
  | pushTerminal (job : Nat) (event : TerminalEvent)
  | close (job : Nat)
  | settle
  | exitSwap
  | drain (loop : DrainLoop)
  | returned
  deriving Repr, DecidableEq

/--
The service, its worker and the `shutdown` calls still draining.  `calls` is the
log of pushes and closes on each job's stream, `accepted` the jobs `submit`
returned and `ran` the jobs handed to the engine, both in order.
-/
structure Service where
  maxQueue : Nat
  queue : List Nat := []
  state : ServiceState := .loading
  running : Bool := true
  nextId : Nat := 1
  liveJob : Option Nat := none
  cancelled : Nat → Bool := fun _ => false
  calls : Nat → List WorkerCall := fun _ => []
  accepted : List Nat := []
  ran : List Nat := []
  worker : Worker := .publishReady
  shutdowns : List DrainLoop := []

namespace Service

/-- One call on a job's stream. -/
def call
    (service : Service)
    (job : Nat)
    (made : WorkerCall) : Service :=
  { service with
    calls := fun other =>
      if other = job then service.calls job ++ [made]
      else service.calls other }

/-- `ConversationService::submit`. -/
def submit (service : Service) : Except SubmitError (Nat × Service) :=
  if service.state ≠ .ready then
    .error .notReady
  else if service.maxQueue ≤ service.queue.length then
    .error .queueFull
  else
    .ok (service.nextId, { service with
      nextId := service.nextId + 1
      queue := service.queue ++ [service.nextId]
      accepted := service.accepted ++ [service.nextId] })

/-- `ConversationService::cancel`. -/
def cancel
    (service : Service)
    (job : Nat) : Service :=
  { service with
    cancelled := fun other =>
      if other = job then true else service.cancelled other }

/-- The critical section of `ConversationService::shutdown`. -/
def shutdown (service : Service) : Service :=
  { (match service.liveJob with
      | some job => service.cancel job
      | none => service) with
    running := false
    state := .stopping
    queue := []
    shutdowns := service.shutdowns ++ [{ pending := service.queue }] }

/-- The next stream call of a drain loop. -/
def drainCall
    (service : Service)
    (loop : DrainLoop) : Option (Service × DrainLoop) :=
  match loop.pending with
  | [] => none
  | job :: rest =>
    if loop.pushed then
      some (service.call job .close, { pending := rest })
    else
      some (service.call job (.push cancelledEvent.val),
        { loop with pushed := true })

end Service

/-- How the engine's `run` ends. -/
inductive EngineOutcome where
  | returned (result : ConversationResult)
  | conversationError (kind : ErrorKind) (message : Bytes)
  | otherException (message : Bytes)
  deriving Repr, DecidableEq

/-- The terminal event `run_worker` pushes for an engine outcome. -/
def EngineOutcome.event : EngineOutcome → TerminalEvent
  | .returned result => ⟨.finished result, rfl⟩
  | .conversationError kind message => ⟨.failed kind message, rfl⟩
  | .otherException message => ⟨.failed .internal message, rfl⟩

/-- One atomic step of the service. -/
inductive ServiceAction where
  | submit
  | cancel (job : Nat)
  | shutdown
  | shutdownDrain (index : Nat)
  | publishReady
  | take
  | loadCancel
  | engineDelta (delta : TextDelta)
  | engineEnd (outcome : EngineOutcome)
  | pushTerminal
  | close
  | settle
  | exitSwap
  | workerDrain
  | storeStopping
  deriving Repr, DecidableEq

namespace Service

/-- The successor of one step, when the step is enabled. -/
def step?
    (service : Service) :
    ServiceAction → Option Service
  | .submit =>
    match service.submit with
    | .ok (_, next) => some next
    | .error _ => some service
  | .cancel job =>
    -- Callers hold a job only once `submit` returned it.
    if job ∈ service.accepted then some (service.cancel job) else none
  | .shutdown =>
    some service.shutdown
  | .shutdownDrain index =>
    match service.shutdowns[index]? with
    | none => none
    | some loop =>
      match service.drainCall loop with
      | none => none
      | some (next, rest) =>
        some { next with
          shutdowns := service.shutdowns.set index rest }
  | .publishReady =>
    match service.worker with
    | .publishReady =>
      some { service with state := .ready, worker := .take }
    | _ => none
  | .take =>
    match service.worker with
    | .take =>
      if service.running then
        match service.queue with
        | [] => none
        | job :: rest =>
          some { service with
            queue := rest
            liveJob := some job
            worker := .loadCancel job }
      else
        some { service with worker := .exitSwap }
    | _ => none
  | .loadCancel =>
    match service.worker with
    | .loadCancel job =>
      if service.cancelled job then
        some { service with worker := .pushTerminal job cancelledEvent }
      else
        some { service with
          ran := service.ran ++ [job]
          worker := .engineRun job }
    | _ => none
  | .engineDelta delta =>
    match service.worker with
    | .engineRun job => some (service.call job (.push (.delta delta)))
    | _ => none
  | .engineEnd outcome =>
    match service.worker with
    | .engineRun job =>
      some { service with worker := .pushTerminal job outcome.event }
    | _ => none
  | .pushTerminal =>
    match service.worker with
    | .pushTerminal job event =>
      some { service.call job (.push event.val) with
        worker := .close job }
    | _ => none
  | .close =>
    match service.worker with
    | .close job =>
      some { service.call job .close with worker := .settle }
    | _ => none
  | .settle =>
    match service.worker with
    | .settle =>
      some { service with liveJob := none, worker := .take }
    | _ => none
  | .exitSwap =>
    match service.worker with
    | .exitSwap =>
      some { service with
        queue := []
        worker := .drain { pending := service.queue } }
    | _ => none
  | .workerDrain =>
    match service.worker with
    | .drain loop =>
      match service.drainCall loop with
      | none => none
      | some (next, rest) => some { next with worker := .drain rest }
    | _ => none
  | .storeStopping =>
    match service.worker with
    | .drain ⟨[], _⟩ =>
      some { service with state := .stopping, worker := .returned }
    | _ => none

/-- The step relation of the service. -/
def Step
    (source : Service)
    (action : ServiceAction)
    (target : Service) : Prop :=
  source.step? action = some target

/-- A service before `run_worker` published `Ready`. -/
def start (maxQueue : Nat) : Service where
  maxQueue := maxQueue

/--
A job's stream was terminated exactly once: deltas, one terminal event, `close`,
and nothing after it.
-/
def TerminatedOnce (calls : List WorkerCall) : Prop :=
  ∃ deltas terminal,
    isTerminal terminal = true ∧ calls = Drain.workerCalls deltas terminal

/-- Once the worker has returned, every accepted job was terminated once. -/
def AllTerminated (service : Service) : Prop :=
  service.worker = .returned →
    ∀ job ∈ service.accepted, TerminatedOnce (service.calls job)

/--
`run_worker` returns only over an empty queue and with no `shutdown` call still
in its drain loop.
-/
def ReturnsSettled
    (service : Service)
    (action : ServiceAction) : Prop :=
  action = .storeStopping →
    service.queue = [] ∧ ∀ loop ∈ service.shutdowns, loop.pending = []

end Service

end Aeon.Server
