import Aeon.LabelledRun
import Aeon.ConversationSeam
import Mathlib.Tactic.Common

namespace Aeon.Server

/-!
# One job's event stream and its two consumers

The worker pushes a job's events and closes the stream; one HTTP handler drains
it, either as server-sent events (`stream_job`) or as one answer
(`handle_non_stream`).  Every `push`, `close`, `pop` and `is_closed` takes the
stream's mutex, so each is one atomic step; what a handler does between two of
them touches no shared state and is folded into the step before it.

Both loops read the stream twice when nothing is there: a failed `pop`, then
`is_closed`.  The main result says exactly which schedules lose the reply.
-/

/-- One event of a job (`JobEvent`). -/
inductive JobEvent where
  | delta (delta : TextDelta)
  | finished (result : ConversationResult)
  | failed (kind : ErrorKind) (message : Bytes)
  deriving Repr, DecidableEq

/-- The shared stream: its queued events and the closed flag (`JobStream`). -/
structure JobStream where
  events : List JobEvent := []
  closed : Bool := false
  deriving Repr, DecidableEq

namespace JobStream

/-- `JobStream::push`. -/
def push
    (stream : JobStream)
    (event : JobEvent) : JobStream :=
  { stream with events := stream.events ++ [event] }

/-- `JobStream::close`. -/
def close (stream : JobStream) : JobStream :=
  { stream with closed := true }

/--
`JobStream::pop` at the instant its wait ends.  It fails only on an empty stream:
after the timeout when the stream is open, at once when it is closed and drained.
-/
def pop (stream : JobStream) : Option JobEvent × JobStream :=
  match stream.events with
  | [] => (none, stream)
  | event :: rest => (some event, { stream with events := rest })

/-- `JobStream::is_closed`. -/
def isClosed (stream : JobStream) : Bool :=
  stream.closed

end JobStream

namespace Drain

/-- The worker's remaining calls on one job's stream. -/
inductive WorkerCall where
  | push (event : JobEvent)
  | close
  deriving Repr, DecidableEq

/-- The events a list of worker calls still has to push. -/
def pushes : List WorkerCall → List JobEvent
  | [] => []
  | .push event :: rest => event :: pushes rest
  | .close :: rest => pushes rest

/-- The token counts reported with a reply (`Usage`). -/
structure Usage where
  promptTokens : Nat
  completionTokens : Nat
  totalTokens : Nat
  deriving Repr, DecidableEq

/-- `usage_of`. -/
def usageOf (result : ConversationResult) : Usage where
  promptTokens := result.promptTokens
  completionTokens := result.completionTokens
  totalTokens := result.promptTokens + result.completionTokens

/-- The machine-readable code of an error answer. -/
inductive ErrorCode where
  | invalidRequestError
  | contextLengthExceeded
  | internalError
  deriving Repr, DecidableEq

/-- What an error answer says (`CodecError`). -/
structure CodecError where
  status : Nat
  code : ErrorCode
  message : Bytes
  deriving Repr, DecidableEq

/-- `error_of`. -/
def errorOf
    (kind : ErrorKind)
    (message : Bytes) : CodecError :=
  match kind with
  | .invalidRequest => ⟨400, .invalidRequestError, message⟩
  | .contextOverflow => ⟨400, .contextLengthExceeded, message⟩
  | .internal => ⟨500, .internalError, message⟩

/-- One write of `stream_job` to the client's sink. -/
inductive Frame where
  | role
  | delta (delta : TextDelta)
  | finish (stop : StopReason)
  | usage (usage : Usage)
  | done
  | error (error : CodecError)
  | queued (position : Nat)
  deriving Repr, DecidableEq

/-- The reply fields `handle_non_stream` copies into its timings. -/
structure Timings where
  reusedTokens : Nat
  prefilledTokens : Nat
  reuseVerdict : ReuseVerdict
  seed : Option Nat
  deriving Repr, DecidableEq

/-- The one answer of `handle_non_stream`. -/
inductive Answer where
  | completion
      (reasoning content : Bytes)
      (stop : StopReason)
      (usage : Usage)
      (timings : Timings)
  | error (error : CodecError)
  | closedWithoutResult
  deriving Repr, DecidableEq

/-- Which handler drains the stream, with the request fields it reads. -/
inductive Loop where
  | streamJob (includeUsage : Bool)
  | handleNonStream (seed : Option Nat)
  deriving Repr, DecidableEq

/-- How a handler's loop ended. -/
inductive Ending where
  | returned
  | clientGone
  deriving Repr, DecidableEq

/-- Where a handler stands between two accesses to the stream. -/
inductive Phase where
  | announce
  | popping
  | popFailed
  | ended (ending : Ending)
  deriving Repr, DecidableEq

/-- A handler: its place, the events it retrieved and what it sent. -/
structure Consumer where
  phase : Phase
  received : List JobEvent := []
  frames : List Frame := []
  reasoning : Bytes := []
  content : Bytes := []
  answer : Option Answer := none
  deriving Repr, DecidableEq

/-- The frames one event makes `stream_job` write. -/
def framesOf
    (includeUsage : Bool) :
    JobEvent → List Frame
  | .delta delta =>
    [.delta delta]
  | .finished result =>
    .finish result.stop ::
      ((if includeUsage then [.usage (usageOf result)] else []) ++ [.done])
  | .failed kind message =>
    [.error (errorOf kind message)]

/-- Whether an event ends the loop that retrieves it. -/
def isTerminal : JobEvent → Bool
  | .delta _ => false
  | .finished _ => true
  | .failed _ _ => true

/-- The place of a loop after it handled an event. -/
def phaseAfter (event : JobEvent) : Phase :=
  if isTerminal event then .ended .returned else .popping

/--
Write frames in order while the client accepts them.  The first refused write
ends the loop (`abort`), and the frames after it are never written.
-/
def Consumer.write
    (consumer : Consumer)
    (frames : List Frame)
    (accepts : Nat)
    (next : Phase) : Consumer :=
  { consumer with
    frames := consumer.frames ++ frames.take accepts
    phase :=
      if frames.length ≤ accepts then next else .ended .clientGone }

/-- The answer a terminal event gives `handle_non_stream`. -/
def answerOf
    (seed : Option Nat)
    (reasoning content : Bytes) :
    JobEvent → Option Answer
  | .delta _ =>
    none
  | .finished result =>
    some (.completion reasoning content result.stop (usageOf result)
      ⟨result.reusedTokens, result.prefilledTokens, result.verdict, seed⟩)
  | .failed kind message =>
    some (.error (errorOf kind message))

/-- The reasoning text of one event. -/
def reasoningOf : JobEvent → Bytes
  | .delta ⟨.reasoning, text⟩ => text
  | _ => []

/-- The answer text of one event. -/
def contentOf : JobEvent → Bytes
  | .delta ⟨.content, text⟩ => text
  | _ => []

variable (loop : Loop)

/-- What a loop does with one retrieved event. -/
def Consumer.handle
    (consumer : Consumer)
    (event : JobEvent)
    (accepts : Nat) : Consumer :=
  let taken := { consumer with received := consumer.received ++ [event] }
  match loop with
  | .streamJob includeUsage =>
    taken.write (framesOf includeUsage event) accepts (phaseAfter event)
  | .handleNonStream seed =>
    { taken with
      reasoning := consumer.reasoning ++ reasoningOf event
      content := consumer.content ++ contentOf event
      answer := answerOf seed consumer.reasoning consumer.content event
      phase := phaseAfter event }

/--
What a loop does after a failed `pop`.  `stream_job` asks whether the client is
still writable before it asks `is_closed`; `handle_non_stream` asks `is_closed`
first.  An open stream sends `stream_job` back to `pop`, possibly after a queued
keep-alive comment.
-/
def Consumer.afterFailedPop
    (consumer : Consumer)
    (closed writable : Bool)
    (keepalive : Option Nat)
    (accepts : Nat) : Consumer :=
  match loop with
  | .streamJob _ =>
    if !writable then
      { consumer with phase := .ended .clientGone }
    else if closed then
      { consumer with phase := .ended .returned }
    else
      match keepalive with
      | some position =>
        consumer.write [.queued position] accepts .popping
      | none =>
        { consumer with phase := .popping }
  | .handleNonStream _ =>
    if closed then
      { consumer with
        answer := some .closedWithoutResult
        phase := .ended .returned }
    else if !writable then
      { consumer with phase := .ended .clientGone }
    else
      { consumer with phase := .popping }

/-- The worker, the shared stream and the one handler draining it. -/
structure System where
  calls : List WorkerCall
  stream : JobStream
  consumer : Consumer
  deriving Repr, DecidableEq

/--
One atomic step.  The client's part of a handler step is an input: how many
writes it accepts, whether it is still connected, and whether a keep-alive is due.
-/
inductive Action where
  | worker
  | announce (accepts : Nat)
  | pop (accepts : Nat)
  | isClosed (writable : Bool) (keepalive : Option Nat) (accepts : Nat)
  deriving Repr, DecidableEq

/-- The successor of one step, when the step is enabled. -/
def step?
    (system : System) :
    Action → Option System
  | .worker =>
    match system.calls with
    | [] => none
    | .push event :: rest =>
      some { system with
        calls := rest
        stream := system.stream.push event }
    | .close :: rest =>
      some { system with
        calls := rest
        stream := system.stream.close }
  | .announce accepts =>
    if system.consumer.phase = .announce then
      some { system with
        consumer := system.consumer.write [.role] accepts .popping }
    else
      none
  | .pop accepts =>
    if system.consumer.phase = .popping then
      match system.stream.pop with
      | (some event, stream) =>
        some { system with
          stream := stream
          consumer := system.consumer.handle loop event accepts }
      | (none, stream) =>
        some { system with
          stream := stream
          consumer := { system.consumer with phase := .popFailed } }
    else
      none
  | .isClosed writable keepalive accepts =>
    if system.consumer.phase = .popFailed then
      some { system with
        consumer :=
          system.consumer.afterFailedPop loop
            system.stream.isClosed writable keepalive accepts }
    else
      none

/-- The step relation of the worker and its consumer. -/
def Step
    (source : System)
    (action : Action)
    (target : System) : Prop :=
  step? loop source action = some target

/-- The whole event sequence of a job. -/
def jobEvents
    (deltas : List TextDelta)
    (terminal : JobEvent) : List JobEvent :=
  deltas.map JobEvent.delta ++ [terminal]

/-- The worker's calls: every delta, exactly one terminal event, then `close`. -/
def workerCalls
    (deltas : List TextDelta)
    (terminal : JobEvent) : List WorkerCall :=
  (jobEvents deltas terminal).map WorkerCall.push ++ [.close]

/-- The first place of a loop: only `stream_job` writes before its first `pop`. -/
def firstPhase : Loop → Phase
  | .streamJob _ => .announce
  | .handleNonStream _ => .popping

/-- A job about to be run and a handler about to drain it. -/
def start
    (deltas : List TextDelta)
    (terminal : JobEvent) : System where
  calls := workerCalls deltas terminal
  stream := {}
  consumer := { phase := firstPhase loop }

/-- Keep-alive comments carry no event of the job. -/
def Frame.isQueued : Frame → Bool
  | .queued _ => true
  | _ => false

/-- What the client has been sent once the whole job was delivered. -/
def SentWhole
    (deltas : List TextDelta)
    (terminal : JobEvent)
    (consumer : Consumer) : Prop :=
  match loop with
  | .streamJob includeUsage =>
    consumer.frames.filter (fun frame => !frame.isQueued) =
      .role :: (deltas.map Frame.delta ++ framesOf includeUsage terminal)
  | .handleNonStream seed =>
    consumer.answer =
      answerOf seed
        (deltas.flatMap fun delta => reasoningOf (.delta delta))
        (deltas.flatMap fun delta => contentOf (.delta delta))
        terminal

/--
No event was lost: the handler retrieved every delta in push order and the
terminal event once, and sent all of it on.
-/
def Delivered
    (deltas : List TextDelta)
    (terminal : JobEvent)
    (consumer : Consumer) : Prop :=
  consumer.received = jobEvents deltas terminal ∧
    SentWhole loop deltas terminal consumer

/-- The worker does not `close` between a failed `pop` and its `is_closed`. -/
def NoCloseAfterFailedPop
    (system : System)
    (action : Action) : Prop :=
  ¬ (action = .worker ∧
      system.calls.head? = some .close ∧
      system.consumer.phase = .popFailed)

end Drain

end Aeon.Server
