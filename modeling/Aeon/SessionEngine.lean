import Aeon.LabelledRun
import Aeon.TextGeneration

namespace Aeon.Runtime

open Aeon.Session (PositionGap PrefixRecord ReuseDecision)
open Aeon.Text

/-!
# The engine's session

`V4Engine::generate` keeps the layer state of a conversation on the devices and a
`PrefixRecord` that describes it.  The device state is modelled by what it was
fed: the tokens of every forward pass that completed since the last reset, with
their positions, and a mark that is set when a pass throws after it has begun to
advance the state.

Positions and offsets are natural numbers.  The context capacity is at most
`max_position_embeddings = 1048576`, so no 32-bit sum in `generate` wraps.
-/

/-- How one `forward_window` or `forward_token` ended. -/
inductive Forward where
  | completed
  | refused
  | threwMidway
  deriving Repr, DecidableEq

/-- The layer state: fed tokens with their positions, and the partial mark. -/
structure Device where
  fed : List (Nat × Nat) := []
  partiallyAdvanced : Bool := false
  deriving Repr, DecidableEq

/-- One forward pass over `tokens` from `position` on. -/
def Device.forward
    (device : Device)
    (ended : Forward)
    (position : Nat)
    (tokens : List Nat) : Device :=
  match ended with
  | .completed => { device with fed := device.fed ++ tokens.zipIdx position }
  | .refused => device
  | .threwMidway => { device with partiallyAdvanced := true }

/-- What the loaded engine fixes for every call. -/
structure EngineSetup where
  contextCapacity : Nat
  prefillWindowTokens : Nat
  eosTokenId : Nat
  deriving Repr, DecidableEq

/-- `session_`, `session_epoch_`, the host's `state_epoch_` and its state. -/
structure Engine where
  session : PrefixRecord := {}
  sessionEpoch : Nat := 0
  stateEpoch : Nat := 0
  device : Device := {}
  deriving Repr, DecidableEq

/--
The arguments of `V4Engine::generate`, and what its surroundings do during the
call: whether the sampler takes the configuration, what the poll before the
window at an offset gives, how each window and each decode step ends, and what
the sampler selects after them (`none` when it throws).
-/
structure GenerateCall where
  prompt : List Nat
  generation : GenerationOptions := {}
  reusePrefix : Bool := false
  computationKey : Bytes := []
  samplingAccepted : Bool := true
  windowCancelled : Nat → Except External Bool := fun _ => .ok false
  window : Nat → Forward := fun _ => .completed
  firstToken : Option Nat
  decode : Nat → Forward := fun _ => .completed
  nextToken : Nat → Option Nat

/-- The fields of `V4Reply` that the session decides. -/
structure Reply where
  promptTokens : Nat
  reusedTokens : Nat
  prefilledTokens : Nat
  reuseVerdict : ReuseVerdict
  tokenIds : List Nat := []
  stopReason : StopReason := .error
  deriving Repr, DecidableEq

namespace Engine

/-- `V4ModelHost::reset_generation_state`. -/
def resetGenerationState (engine : Engine) : Engine :=
  { engine with device := {}, stateEpoch := engine.stateEpoch + 1 }

/-- `V4Engine::end_session`. -/
def endSession (engine : Engine) : Engine :=
  { engine with session := engine.session.clear }

/-- The reuse decision of `generate`. -/
def reuseDecision
    (engine : Engine)
    (call : GenerateCall) : ReuseDecision :=
  if call.reusePrefix then
    let decision := engine.session.plan call.prompt call.computationKey
    if decision.verdict = .reused ∧
        engine.sessionEpoch ≠ engine.stateEpoch then
      { decision with verdict := .staleState, start := 0 }
    else
      decision
  else
    {}

/-- The cold start of `generate`, taken when nothing is reused. -/
def prepare
    (engine : Engine)
    (start : Nat)
    (computationKey : Bytes) : Engine :=
  if start = 0 then
    let reset := engine.resetGenerationState
    { reset with
      session := reset.session.begin computationKey
      sessionEpoch := reset.stateEpoch }
  else
    engine

end Engine

/-- The feeds of one window, from `position` on. -/
def feedWindow :
    PrefixRecord → Nat → List Nat → Except PositionGap Unit × PrefixRecord
  | record, _, [] => (.ok (), record)
  | record, position, tokenId :: tokens =>
    match record.feed position tokenId with
    | .error gap => (.error gap, record)
    | .ok fed => feedWindow fed (position + 1) tokens

/-- `V4Engine::prefill_window_for`. -/
def prefillWindowFor
    (setup : EngineSetup)
    (tokens : Nat) : Nat :=
  max 1 (min setup.prefillWindowTokens tokens)

/--
The window loop of the prefill step.  A window advances the offset by at least
one token, so as many rounds as tokens left are enough.
-/
def prefillWindows
    (call : GenerateCall)
    (window : Nat) :
    Nat → Nat → Engine → Attempt Engine Unit
  | 0, _, engine => (.ok (), engine)
  | rounds + 1, offset, engine =>
    if call.prompt.length ≤ offset then
      (.ok (), engine)
    else
      match call.windowCancelled offset with
      | .error thrown => (.error (.external thrown), engine)
      | .ok true => (.error (.external .generationCancelled), engine)
      | .ok false =>
        let tokens := (call.prompt.drop offset).take window
        let advanced :=
          { engine with
            device :=
              engine.device.forward (call.window offset) offset tokens }
        match call.window offset with
        | .completed =>
          match feedWindow advanced.session offset tokens with
          | (.error gap, session) =>
            (.error (.positionGap gap), { advanced with session })
          | (.ok (), session) =>
            prefillWindows call window rounds (offset + window)
              { advanced with session }
        | _ => (.error (.external .failure), advanced)

/--
The prefill step: a cancel between windows keeps the record, any other throw
clears it.
-/
def prefillStep
    (setup : EngineSetup)
    (call : GenerateCall)
    (start : Nat)
    (tokens : List Nat)
    (engine : Engine) : Attempt Engine Nat :=
  let tail := tokens.length - start
  match prefillWindows call (prefillWindowFor setup tail) tail start engine with
  | (.error (.external .generationCancelled), after) =>
    (.error (.external .generationCancelled), after)
  | (.error thrown, after) => (.error thrown, after.endSession)
  | (.ok (), after) =>
    match call.firstToken with
    | none => (.error (.external .failure), after)
    | some token => (.ok token, after)

/-- The decode step, `V4Engine::advance`. -/
def advance
    (call : GenerateCall)
    (tokenId position : Nat)
    (engine : Engine) : Attempt Engine Nat :=
  let advanced :=
    { engine with
      device := engine.device.forward (call.decode position) position [tokenId] }
  match call.decode position with
  | .completed =>
    match advanced.session.feed position tokenId with
    | .error gap => (.error (.positionGap gap), advanced)
    | .ok session =>
      match call.nextToken position with
      | none => (.error (.external .failure), { advanced with session })
      | some token => (.ok token, { advanced with session })
  | _ => (.error (.external .failure), advanced)

/-- `V4Engine::generate`. -/
def generate
    (setup : EngineSetup)
    (engine : Engine)
    (call : GenerateCall) : Attempt Engine Reply :=
  if call.prompt.isEmpty then
    (.error (.refusal "V4Engine::generate: the prompt has no tokens"), engine)
  else if setup.contextCapacity ≤ call.prompt.length then
    (.error (.refusal
      ("V4Engine::generate: the prompt is " ++ toString call.prompt.length ++
        " tokens, which leaves no room to generate inside a context of " ++
        toString setup.contextCapacity)), engine)
  else
    let decision := engine.reuseDecision call
    let prepared := engine.prepare decision.start call.computationKey
    if call.samplingAccepted then
      let options :=
        { call.generation with
          eosTokenId := setup.eosTokenId
          contextLimit := setup.contextCapacity }
      let reply : Reply :=
        { promptTokens := call.prompt.length
          reusedTokens := decision.start
          prefilledTokens := call.prompt.length - decision.start
          reuseVerdict := decision.verdict }
      match generateTokenIds call.prompt options
          (prefillStep setup call decision.start) (advance call) prepared with
      | (.error (.external .generationCancelled), after) =>
        (.ok { reply with stopReason := .cancelled }, after)
      | (.error thrown, after) => (.error thrown, after)
      | (.ok generated, after) =>
        (.ok { reply with
          tokenIds := generated.tokenIds
          stopReason := generated.stopReason }, after)
    else
      (.error (.external .failure), prepared)

/-- What a caller does with the engine between two reads of its state. -/
inductive EngineAction where
  | generate (call : GenerateCall)
  | endSession
  | hostReset

/-- One action on the engine. -/
def EngineStep
    (setup : EngineSetup)
    (source : Engine)
    (action : EngineAction)
    (target : Engine) : Prop :=
  match action with
  | .generate call => target = (generate setup source call).2
  | .endSession => target = source.endSession
  | .hostReset => target = source.resetGenerationState

end Aeon.Runtime
