import Aeon.ConversationSeam
import Aeon.JsonSpan
import Aeon.JsonValue

namespace Aeon.Json.JsonValue

/-! ## The type of a value -/

/-- `JsonValue::is_null`. -/
def isNull : JsonValue → Bool
  | .null => true
  | _ => false

/-- `JsonValue::is_bool`. -/
def isBool : JsonValue → Bool
  | .bool _ => true
  | _ => false

/-- `JsonValue::is_number`. -/
def isNumber : JsonValue → Bool
  | .number _ => true
  | _ => false

/-- `JsonValue::is_string`. -/
def isString : JsonValue → Bool
  | .string _ => true
  | _ => false

/-- `JsonValue::is_array`. -/
def isArray : JsonValue → Bool
  | .array _ => true
  | _ => false

/-- `JsonValue::is_object`. -/
def isObject : JsonValue → Bool
  | .object _ => true
  | _ => false

/-- `JsonValue::as_bool`. -/
def asBool : JsonValue → Except Bytes Bool
  | .bool value => .ok value
  | _ => .error (bytes "JSON value is not a boolean")

/-- `JsonValue::as_object`. -/
def asObject : JsonValue → Except Bytes (List (Bytes × JsonValue))
  | .object members => .ok members
  | _ => .error (bytes "JSON value is not an object")

end Aeon.Json.JsonValue

namespace Aeon.Server

open Aeon.Json (JsonValue)

/-!
# Chat-completions requests

`parse_chat_request` makes a conversation request of a request's body.  What it does not
accept it refuses with a `CodecError`.  The accessors of a JSON value throw an exception
of another type, so each is called behind a check of the value's type.
-/

/-- `CodecError`. -/
structure CodecError where
  httpStatus : Nat := 400
  code : Bytes := bytes "invalid_request_error"
  message : Bytes
  deriving Repr, DecidableEq

/-- An exception: a `CodecError`, or the `std::runtime_error` of an accessor. -/
inductive RequestError where
  | codec (error : CodecError)
  | runtime (what : Bytes)
  deriving Repr, DecidableEq

/-- What a part of the parser returns or throws. -/
abbrev Parsing (Value : Type) :=
  Except RequestError Value

/-- What the parser meets outside the body. -/
structure Platform where
  /-- What the cast of `2^63` to a signed 64-bit integer makes of it. -/
  indefinite : Int
  /-- `draw_seed`. -/
  drawnSeed : Nat
  /-- What the later checks say of the temperature and the `top_p`, as floats. -/
  checkSampling : Option ℚ → Option ℚ → SamplingCheck

/-- `fail`. -/
def fail
    {Value : Type}
    (status : Nat)
    (code : String)
    (message : Bytes) : Parsing Value :=
  .error (.codec { httpStatus := status, code := bytes code, message })

/-- `require`. -/
def require
    (condition : Bool)
    (message : String) : Parsing Unit :=
  if condition then .ok ()
  else fail 400 "invalid_request_error" (bytes message)

/-- The exception of an accessor is not caught. -/
def access
    {Value : Type} :
    Except Bytes Value → Parsing Value
  | .ok value => .ok value
  | .error what => .error (.runtime what)

/-! ## Members -/

/-- A member that is there and is not null. -/
def present
    (document : JsonValue)
    (key : String) : Option JsonValue :=
  (document.find (bytes key)).filter fun value => !value.isNull

/-- A member that has to be a string. -/
def requireString
    (value : Option JsonValue)
    (message : String) : Parsing Bytes := do
  match value with
  | none => fail 400 "invalid_request_error" (bytes message)
  | some text =>
    require text.isString message
    access text.asString

/-- A member that is read where it is a string. -/
def stringOr (value : Option JsonValue) : Parsing Bytes :=
  match value with
  | none => .ok []
  | some text => if text.isString then access text.asString else .ok []

/-- A member that has to be an object. -/
def requireObject
    (value : Option JsonValue)
    (message : String) : Parsing JsonValue := do
  match value with
  | none => fail 400 "invalid_request_error" (bytes message)
  | some object =>
    require object.isObject message
    .ok object

/-- A key in backquotes, in front of the rest of a message. -/
def quoted
    (key : String)
    (rest : String) : String :=
  "`" ++ key ++ "`" ++ rest

/-! ## Messages -/

/-- `parse_role`. -/
def parseRole (role : Bytes) : Parsing Role :=
  if role = bytes "system" then .ok .system
  else if role = bytes "developer" then .ok .developer
  else if role = bytes "user" then .ok .user
  else if role = bytes "assistant" then .ok .assistant
  else if role = bytes "tool" then .ok .tool
  else fail 400 "invalid_request_error" (bytes "unknown role: " ++ role)

/-- One part of a content array. -/
def parsePart (part : JsonValue) : Parsing Bytes := do
  require part.isObject "each `content` part must be an object"
  let type ← requireString (part.find (bytes "type"))
    "each `content` part needs a string `type`"
  if type ≠ bytes "text" then
    fail 400 "unsupported_parameter"
      (bytes "content part type `" ++ type ++ bytes "` is not supported")
  else
    requireString (part.find (bytes "text")) "a text content part needs string `text`"

/-- `parse_content`. -/
def parseContent (message : JsonValue) : Parsing Bytes :=
  match message.find (bytes "content") with
  | none => .ok []
  | some content =>
    if content.isNull then .ok []
    else if content.isString then access content.asString
    else if content.isArray then do
      let parts ← access content.asArray
      let texts ← parts.mapM parsePart
      .ok texts.flatten
    else
      fail 400 "invalid_request_error"
        (bytes "`content` must be a string, null, or an array of text parts")

/-- One call of `parse_tool_calls`. -/
def parseToolCall (call : JsonValue) : Parsing ToolCall := do
  require call.isObject "each tool call must be an object"
  let id ← stringOr (call.find (bytes "id"))
  let function ← requireObject (call.find (bytes "function"))
    "a tool call needs a `function` object"
  let name ← stringOr (function.find (bytes "name"))
  let arguments ← requireString (function.find (bytes "arguments"))
    "a tool call's `function.arguments` must be a JSON string"
  .ok { id, name, argumentsJson := arguments }

/-- `parse_tool_calls`. -/
def parseToolCalls (message : JsonValue) : Parsing (List ToolCall) :=
  match present message "tool_calls" with
  | none => .ok []
  | some calls => do
      require calls.isArray "`tool_calls` must be an array"
      let listed ← access calls.asArray
      listed.mapM parseToolCall

/-- One round of the loop over the messages. -/
def parseMessage (node : JsonValue) : Parsing Message := do
  require node.isObject "each message must be an object"
  let name ← requireString (node.find (bytes "role"))
    "each message needs a string `role`"
  let role ← parseRole name
  let content ← parseContent node
  let reasoningContent ← stringOr (node.find (bytes "reasoning_content"))
  let toolCallId ← stringOr (node.find (bytes "tool_call_id"))
  if role = .tool ∧ toolCallId = [] then
    fail 400 "invalid_request_error" (bytes "a tool message requires `tool_call_id`")
  else
    let toolCalls ← parseToolCalls node
    .ok { role, content, reasoningContent, toolCallId, toolCalls }

/-- The messages. -/
def parseMessages (document : JsonValue) : Parsing (List Message) := do
  match document.find (bytes "messages") with
  | none => fail 400 "invalid_request_error" (bytes "`messages` must be a non-empty array")
  | some messages =>
    require messages.isArray "`messages` must be a non-empty array"
    let nodes ← access messages.asArray
    require (!nodes.isEmpty) "`messages` must be a non-empty array"
    nodes.mapM parseMessage

/-- A member that is passed through as its source text. -/
def rawPassthrough
    (body : Bytes)
    (key : String) : Bytes :=
  match JsonSpan.rawMember body (bytes key) with
  | some (_, span) => if span = bytes "null" then [] else span
  | none => []

/-! ## Thinking -/

/-- `read_toggle`. -/
def readToggle (value : Option JsonValue) : Parsing (Option Bool) := do
  match value with
  | none => .ok none
  | some toggle =>
    if toggle.isNull then .ok none
    else if toggle.isBool then
      let enabled ← access toggle.asBool
      .ok (some enabled)
    else if toggle.isObject then
      let type ← stringOr (toggle.find (bytes "type"))
      if type = bytes "enabled" then .ok (some true)
      else if type = bytes "disabled" then .ok (some false)
      else .ok none
    else .ok none

/-- The toggles under these keys, the last one first. -/
def readToggles
    (object : JsonValue) :
    List String → Bool → Parsing Bool
  | [], thinking => .ok thinking
  | key :: keys, thinking => do
      let toggle ← readToggle (object.find (bytes key))
      readToggles object keys (toggle.getD thinking)

/-- The toggles of `chat_template_kwargs`. -/
def templateThinking (document : JsonValue) : Parsing Bool :=
  match document.find (bytes "chat_template_kwargs") with
  | none => .ok false
  | some kwargs =>
    if kwargs.isObject then readToggles kwargs ["thinking", "enable_thinking"] false
    else .ok false

/-- Whether any spelling turns thinking on. -/
def parseThinking (document : JsonValue) : Parsing Bool := do
  let thinking ← templateThinking document
  readToggles document ["enable_thinking", "thinking"] thinking

/-- The effort, and what it makes of the toggle. -/
def parseEffort
    (document : JsonValue)
    (thinking : Bool) : Parsing (Bool × Bytes) :=
  match present document "reasoning_effort" with
  | none => .ok (thinking, [])
  | some value => do
      require value.isString "`reasoning_effort` must be a string"
      let effort ← access value.asString
      if effort = bytes "none" then .ok (false, [])
      else if effort = bytes "minimal" ∨ effort = bytes "medium" then
        .ok (true, bytes "low")
      else if effort = bytes "low" ∨ effort = bytes "high" ∨ effort = bytes "max" then
        .ok (true, effort)
      else
        fail 400 "invalid_request_error"
          (bytes "`reasoning_effort` must be one of low|high|max")

/-! ## Numbers and flags -/

/-- One key of the token cap: the cast to 32 bits keeps the low ones. -/
def tokenCap
    (platform : Platform)
    (document : JsonValue)
    (key : String)
    (before : Option Nat) : Parsing (Option Nat) :=
  match present document key with
  | none => .ok before
  | some value => do
      require value.isNumber (quoted key " must be a number")
      let cap ← access (value.asInt64 platform.indefinite)
      require (0 < cap) (quoted key " must be positive")
      .ok (some (cap % 2 ^ 32).toNat)

/-- A sampling override, before it is a float. -/
def parseReal
    (document : JsonValue)
    (key : String) : Parsing (Option ℚ) :=
  match present document key with
  | none => .ok none
  | some value => do
      require value.isNumber (quoted key " must be a number")
      let number ← access value.asNumber
      .ok (some number)

/-- The seed of the request, or a drawn one. -/
def parseSeed
    (platform : Platform)
    (document : JsonValue) : Parsing Nat :=
  match present document "seed" with
  | none => .ok platform.drawnSeed
  | some value => do
      require value.isNumber "`seed` must be a number"
      let seed ← access (value.asInt64 platform.indefinite)
      .ok (seed % 2 ^ 64).toNat

/-- `stream`. -/
def parseStream (document : JsonValue) : Parsing Bool :=
  match present document "stream" with
  | none => .ok false
  | some value => do
      require value.isBool "`stream` must be a boolean"
      access value.asBool

/-- `stream_options.include_usage`. -/
def parseIncludeUsage (document : JsonValue) : Parsing Bool :=
  match document.find (bytes "stream_options") with
  | none => .ok false
  | some options =>
    if options.isObject then
      match options.find (bytes "include_usage") with
      | none => .ok false
      | some usage => if usage.isBool then access usage.asBool else .ok false
    else .ok false

/-! ## What is not honoured -/

/-- `n` may only be one. -/
def checkCount
    (platform : Platform)
    (document : JsonValue) : Parsing Unit :=
  match present document "n" with
  | none => .ok ()
  | some value => do
      require value.isNumber "`n` must be a number"
      let count ← access (value.asInt64 platform.indefinite)
      require (count = 1) "`n` must be 1"

/-- `is_empty_value`. -/
def isEmptyValue (value : Option JsonValue) : Parsing Bool := do
  match value with
  | none => .ok true
  | some given =>
    if given.isNull then .ok true
    else if given.isString then
      let text ← access given.asString
      .ok text.isEmpty
    else if given.isArray then
      let elements ← access given.asArray
      .ok elements.isEmpty
    else if given.isObject then
      let members ← access given.asObject
      .ok members.isEmpty
    else .ok false

/-- Members that have to be empty. -/
def checkEmpty
    (document : JsonValue) :
    List String → Parsing Unit
  | [] => .ok ()
  | key :: keys => do
      let empty ← isEmptyValue (document.find (bytes key))
      if empty then checkEmpty document keys
      else fail 400 "unsupported_parameter" (bytes (quoted key " is not supported"))

/-- Whether `logprobs` asks for any. -/
def logprobsActive (value : JsonValue) : Parsing Bool :=
  if value.isBool then access value.asBool
  else if value.isNumber then do
    let number ← access value.asNumber
    .ok (decide (number ≠ 0))
  else .ok false

/-- `logprobs` may only be off. -/
def checkLogprobs (document : JsonValue) : Parsing Unit :=
  match present document "logprobs" with
  | none => .ok ()
  | some value => do
      let active ← logprobsActive value
      if active then
        fail 400 "unsupported_parameter" (bytes "`logprobs` is not supported")
      else .ok ()

/-- Penalties that have to be zero. -/
def checkPenalties
    (document : JsonValue) :
    List String → Parsing Unit
  | [] => .ok ()
  | key :: keys =>
    match present document key with
    | none => checkPenalties document keys
    | some value => do
        require value.isNumber (quoted key " must be a number")
        let number ← access value.asNumber
        if number ≠ 0 then
          fail 400 "unsupported_parameter" (bytes (quoted key " is not supported"))
        else checkPenalties document keys

/-! ## The request -/

/-- `ParsedRequest`; the sampling overrides are kept as the numbers of the body. -/
structure ParsedRequest where
  request : ConversationRequest
  temperature : Option ℚ := none
  topP : Option ℚ := none
  stream : Bool := false
  includeUsage : Bool := false
  seed : Nat := 0
  deriving DecidableEq

/-- The body as JSON: whatever its reader throws is refused. -/
def parseDocument (body : Bytes) : Parsing JsonValue :=
  match Json.parse body with
  | .ok document => .ok document
  | .error what =>
    fail 400 "invalid_request_error" (bytes "malformed JSON: " ++ what)

/-- `parse_chat_request`. -/
def parseChatRequest
    (platform : Platform)
    (body : Bytes) : Parsing ParsedRequest := do
  let document ← parseDocument body
  require document.isObject "the request body must be a JSON object"
  let messages ← parseMessages document
  let toggled ← parseThinking document
  let thinking ← parseEffort document toggled
  let cap ← tokenCap platform document "max_tokens" none
  let maxNewTokens ← tokenCap platform document "max_completion_tokens" cap
  let temperature ← parseReal document "temperature"
  let topP ← parseReal document "top_p"
  let seed ← parseSeed platform document
  let stream ← parseStream document
  let includeUsage ← parseIncludeUsage document
  checkCount platform document
  checkEmpty document ["stop", "logit_bias"]
  checkLogprobs document
  checkPenalties document ["presence_penalty", "frequency_penalty", "repetition_penalty"]
  .ok {
    request :=
      { messages
        toolsJson := rawPassthrough body "tools"
        responseFormatJson := rawPassthrough body "response_format"
        thinking := thinking.1
        reasoningEffort := thinking.2
        maxNewTokens
        sampling := platform.checkSampling temperature topP }
    temperature
    topP
    stream
    includeUsage
    seed }

end Aeon.Server
