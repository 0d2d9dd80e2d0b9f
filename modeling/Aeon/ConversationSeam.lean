import Aeon.Bytes

namespace Aeon

/-!
# The conversation seam

The neutral request and response vocabulary shared by the engine and the serving
layer: stop reasons, reuse verdicts, text deltas and the result of one turn.
Every C++ `std::string` is a byte list here, because several components below it
depend on bytes rather than characters.
-/

/-- Why a generation stopped (`text::StopReason`). -/
inductive StopReason where
  | eos
  | maxNewTokens
  | contextLimit
  | cancelled
  | error
  deriving Repr, DecidableEq

/-- The reuse decision of one turn (`session::ReuseVerdict`). -/
inductive ReuseVerdict where
  | cold
  | reused
  | keyChanged
  | diverged
  | noTail
  | staleState
  | disabled
  deriving Repr, DecidableEq

/-- Who a message is from (`session::Role`). -/
inductive Role where
  | system
  | developer
  | user
  | assistant
  | tool
  deriving Repr, DecidableEq

/-- A tool call of an assistant message (`session::ToolCall`). -/
structure ToolCall where
  id : Bytes := []
  name : Bytes := []
  argumentsJson : Bytes := []
  deriving Repr, DecidableEq

/-- One message of a request (`session::Message`). -/
structure Message where
  role : Role := .user
  content : Bytes := []
  reasoningContent : Bytes := []
  toolCallId : Bytes := []
  toolCalls : List ToolCall := []
  deriving Repr, DecidableEq

/-- What the range checks say of the sampling overrides of a request. -/
inductive SamplingCheck where
  | accepted
  | badTemperature
  | badTopP
  deriving Repr, DecidableEq

/--
One turn's request (`session::ConversationRequest`).  The sampling overrides are
floating-point values; what their checks give is kept.
-/
structure ConversationRequest where
  messages : List Message
  toolsJson : Bytes := []
  responseFormatJson : Bytes := []
  thinking : Bool := false
  reasoningEffort : Bytes := []
  maxNewTokens : Option Nat := none
  sampling : SamplingCheck := .accepted
  deriving Repr, DecidableEq

/-- Which channel a delta belongs to (`session::Channel`). -/
inductive Channel where
  | content
  | reasoning
  deriving Repr, DecidableEq

/-- One decoded piece of a reply (`session::TextDelta`). -/
structure TextDelta where
  channel : Channel
  text : Bytes
  deriving Repr, DecidableEq

/-- What the engine refuses a request for (`session::ErrorKind`). -/
inductive ErrorKind where
  | invalidRequest
  | contextOverflow
  | internal
  deriving Repr, DecidableEq

/--
The result of one turn (`session::ConversationResult`).  The two wall-clock
figures of the source are measurements no modelled function reads.
-/
structure ConversationResult where
  stop : StopReason := .error
  promptTokens : Nat := 0
  completionTokens : Nat := 0
  reusedTokens : Nat := 0
  prefilledTokens : Nat := 0
  verdict : ReuseVerdict := .cold
  deriving Repr, DecidableEq

end Aeon
