import Aeon.PromptEncoder
import Aeon.SessionEngine
import Aeon.StreamDecoder

namespace Aeon.Runtime

open Aeon.Text

/-!
# The engine as a conversation

`V4Conversation::run` serves one turn: it maps the request's messages, renders
them, generates, streams the reply, and keeps the reply's ids under the
signature of its text.  The next request that carries an assistant message of
the same reasoning and content is given those ids in place of the text.
-/

/-- `ConversationError`. -/
structure ConversationError where
  kind : ErrorKind
  message : Bytes
  deriving Repr, DecidableEq

/-- What leaves `run`: a `ConversationError`, or what `generate` threw. -/
inductive RunError where
  | conversation (error : ConversationError)
  | internal (thrown : Thrown)
  deriving Repr, DecidableEq

/-- The engine a conversation runs on. -/
structure ConversationSetup where
  encoder : PromptEncoder
  contextCapacity : Nat
  prefillWindowTokens : Nat

/-- The engine's constants; the EOS id is the tokenizer's. -/
def ConversationSetup.engine (setup : ConversationSetup) : EngineSetup :=
  { contextCapacity := setup.contextCapacity
    prefillWindowTokens := setup.prefillWindowTokens
    eosTokenId := setup.encoder.tokenizer.eosTokenId }

/-- The kept replies, `assistant_ids_`; the newest entry of a key is first. -/
abbrev AssistantIds := List (Bytes × List Nat)

/-- `V4Conversation`: its engine and its kept replies. -/
structure Conversation where
  engine : Engine := {}
  assistantIds : AssistantIds := []
  deriving Repr, DecidableEq

/-- `assistant_signature`. -/
def assistantSignature (reasoning content : Bytes) : Bytes :=
  reasoning ++ [0x1f] ++ content

/-- The ids kept under a signature. -/
def AssistantIds.lookupIds
    (kept : AssistantIds)
    (signature : Bytes) : Option (List Nat) :=
  (kept.find? fun entry => entry.1 = signature).map (·.2)

/-- `to_dsv4_role`. -/
def toDsv4Role : Role → PromptRole
  | .system => .system
  | .developer => .developer
  | .user => .user
  | .assistant => .assistant
  | .tool => .tool

/-- One message of `map_messages`. -/
def mapMessage
    (kept : AssistantIds)
    (message : Message) : PromptMessage :=
  { role := toDsv4Role message.role
    content := message.content
    reasoningContent := message.reasoningContent
    toolCallId := message.toolCallId
    toolCalls := message.toolCalls.map fun call =>
      { id := call.id, name := call.name, arguments := call.argumentsJson }
    preencodedIds :=
      if message.role = .assistant then
        (kept.lookupIds
          (assistantSignature message.reasoningContent
            message.content)).getD []
      else [] }

/-- The tool definitions of a request. -/
def mapTools
    (encoder : PromptEncoder)
    (toolsJson : Bytes) : Except ConversationError (List ToolDefinition) :=
  match PromptJson.parse toolsJson with
  | .error what =>
    .error {
      kind := .invalidRequest
      message := bytes "invalid tools: " ++ what }
  | .ok (.array tools) =>
    .ok (tools.filterMap fun tool =>
      (tool.find (bytes "function")).map fun function =>
        { functionJson := function.toPythonJson encoder.pythonReal })
  | .ok _ =>
    .error {
      kind := .invalidRequest
      message := bytes "`tools` must be a JSON array" }

/-- The leading system message that carries tools and a response format. -/
def leadingMessages
    (encoder : PromptEncoder)
    (request : ConversationRequest) :
    Except ConversationError (List PromptMessage) :=
  if request.toolsJson ≠ [] then do
    let tools ← mapTools encoder request.toolsJson
    .ok [{
      role := .system
      tools
      responseFormatJson := request.responseFormatJson }]
  else if request.responseFormatJson ≠ [] then
    .ok [{
      role := .system
      responseFormatJson := request.responseFormatJson }]
  else
    .ok []

/-- `map_messages`. -/
def mapMessages
    (encoder : PromptEncoder)
    (kept : AssistantIds)
    (request : ConversationRequest) :
    Except ConversationError (List PromptMessage) := do
  let leading ← leadingMessages encoder request
  .ok (leading ++ request.messages.map (mapMessage kept))

/-- The prompt options of a request; a conversation keeps its thinking. -/
def promptOptions
    (request : ConversationRequest) :
    Except ConversationError PromptOptions :=
  let options : PromptOptions :=
    { thinkingMode := if request.thinking then .thinking else .chat
      dropThinking := false }
  if request.reasoningEffort = [] then
    .ok options
  else if request.reasoningEffort ≠ bytes "low" ∧
      request.reasoningEffort ≠ bytes "high" ∧
      request.reasoningEffort ≠ bytes "max" then
    .error {
      kind := .invalidRequest
      message := bytes "reasoning_effort must be one of low|high|max" }
  else
    .ok { options with reasoningEffort := request.reasoningEffort }

/-- The range checks of the sampling overrides. -/
def checkSampling : SamplingCheck → Except ConversationError Unit
  | .accepted => .ok ()
  | .badTemperature =>
    .error {
      kind := .invalidRequest
      message := bytes "temperature must be finite and >= 0" }
  | .badTopP =>
    .error {
      kind := .invalidRequest
      message := bytes "top_p must be in (0, 1]" }

/-- A truth value in the computation key. -/
def keyFlag (value : Bool) : Bytes :=
  if value then bytes "1" else bytes "0"

/-- `dsv4_computation_key`. -/
def dsv4ComputationKey
    (messages : List PromptMessage)
    (options : PromptOptions) : Bytes :=
  let dropThinking :=
    options.dropThinking && !messages.any fun message => message.tools ≠ []
  let configured := messages.filter fun message =>
    message.role = .system || message.role = .developer
  let tools := configured.flatMap fun message =>
    message.tools.flatMap fun tool => tool.functionJson ++ [0x1f]
  let responseFormat := configured.flatMap fun message =>
    if message.responseFormatJson = [] then []
    else message.responseFormatJson ++ [0x1f]
  bytes "thinking=" ++ keyFlag (options.thinkingMode = .thinking) ++
    bytes "|drop=" ++ keyFlag dropThinking ++
    bytes "|effort=" ++ options.reasoningEffort ++
    bytes "|bos=" ++ keyFlag options.addDefaultBosToken ++
    bytes "|tools=" ++ tools ++ bytes "|fmt=" ++ responseFormat

/--
What a turn meets: what the engine's call meets, with `generation.onToken` the
sink's answer to the deltas of a token, and the sink's answer to the last deltas.
-/
structure TurnSurroundings where
  call : GenerateCall
  finishSink : Except External Unit := .ok ()

/-- The token callback: the decoder first, then the sink. -/
def streamToken
    (tokenizer : Tokenizer)
    (thinking : Bool)
    (sink : List Nat → Except External Unit)
    (tokens : List Nat) : Except External Unit :=
  match StreamDecoder.pushAll tokenizer (.start thinking) tokens with
  | .error _ => .error .failure
  | .ok _ => sink tokens

/-- The messages, the options and the call a turn makes of its request. -/
def turnCall
    (setup : ConversationSetup)
    (kept : AssistantIds)
    (request : ConversationRequest)
    (surroundings : TurnSurroundings) :
    Except ConversationError GenerateCall := do
  checkSampling request.sampling
  let options ← promptOptions request
  let messages ← mapMessages setup.encoder kept request
  match setup.encoder.encodeTokens messages options with
  | .error what => .error { kind := .invalidRequest, message := what }
  | .ok prompt =>
    if setup.contextCapacity ≤ prompt.length then
      .error {
        kind := .contextOverflow
        message := bytes (toString prompt.length ++ " tokens, context " ++
          toString setup.contextCapacity) }
    else
      let room := setup.contextCapacity - prompt.length
      let maxNew :=
        match request.maxNewTokens with
        | some asked => if asked < room then asked else room
        | none => room
      .ok { surroundings.call with
        prompt
        generation :=
          { maxNewTokens := maxNew
            eosTokenId := setup.encoder.tokenizer.eosTokenId
            contextLimit := setup.contextCapacity
            onToken := streamToken setup.encoder.tokenizer request.thinking
              surroundings.call.generation.onToken
            cancelled := surroundings.call.generation.cancelled }
        reusePrefix := true
        computationKey := dsv4ComputationKey messages options }

/-- The replies kept after a reply with these deltas. -/
def keepReply
    (tokenizer : Tokenizer)
    (kept : AssistantIds)
    (ids : List Nat)
    (deltas : List TextDelta) : AssistantIds :=
  let body := withoutEos tokenizer.eosTokenId ids
  if body = [] then kept
  else
    (assistantSignature
      (StreamDecoder.channelText .reasoning deltas)
      (StreamDecoder.channelText .content deltas), body) :: kept

/-- The result of a turn. -/
def turnResult (reply : Reply) : ConversationResult :=
  { stop := reply.stopReason
    promptTokens := reply.promptTokens
    completionTokens := reply.tokenIds.length
    reusedTokens := reply.reusedTokens
    prefilledTokens := reply.prefilledTokens
    verdict := reply.reuseVerdict }

/-- `V4Conversation::run`. -/
def Conversation.run
    (setup : ConversationSetup)
    (conversation : Conversation)
    (request : ConversationRequest)
    (surroundings : TurnSurroundings) :
    Except RunError ConversationResult × Conversation :=
  let tokenizer := setup.encoder.tokenizer
  match turnCall setup conversation.assistantIds request surroundings with
  | .error error => (.error (.conversation error), conversation)
  | .ok call =>
    match generate setup.engine conversation.engine call with
    | (.error thrown, after) =>
      (.error (.internal thrown),
        { conversation with engine := after.endSession })
    | (.ok reply, after) =>
      -- Every token of the reply went through the decoder on its way.
      match StreamDecoder.pushAll tokenizer (.start request.thinking)
          reply.tokenIds with
      | .error _ =>
        (.error (.internal (.external .failure)),
          { conversation with engine := after })
      | .ok (deltas, decoder) =>
        let last := decoder.finish
        match (if last = [] then .ok () else surroundings.finishSink) with
        | .error thrown =>
          (.error (.internal (.external thrown)),
            { conversation with engine := after })
        | .ok () =>
          (.ok (turnResult reply),
            { engine := after
              assistantIds :=
                keepReply tokenizer conversation.assistantIds
                  reply.tokenIds (deltas ++ last) })

/-- What a caller does with a conversation. -/
inductive ConversationAction where
  | run (request : ConversationRequest) (surroundings : TurnSurroundings)
  | reset

/-- One action on a conversation. -/
def ConversationStep
    (setup : ConversationSetup)
    (source : Conversation)
    (action : ConversationAction)
    (target : Conversation) : Prop :=
  match action with
  | .run request surroundings =>
    target = (source.run setup request surroundings).2
  | .reset => target = { source with engine := source.engine.endSession }

end Aeon.Runtime
