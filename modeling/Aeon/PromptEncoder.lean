import Aeon.PromptJson
import Aeon.Tokenizer

namespace Aeon.Text

/-!
# The prompt encoder

`Dsv4PromptEncoder` renders a conversation into the model's prompt.  Tool
messages are first merged into user messages and ordered by the calls they
answer; each message then emits text, or the exact ids of an earlier reply, and
the tokens of the transition to what follows.  `encode` joins the text, and
`encodeTokens` tokenizes each run of text between exact ids on its own.
-/

/-- `Dsv4ThinkingMode`. -/
inductive ThinkingMode where
  | chat
  | thinking
  deriving Repr, DecidableEq

/-- `Dsv4Role`. -/
inductive PromptRole where
  | system
  | developer
  | user
  | assistant
  | latestReminder
  | tool
  deriving Repr, DecidableEq

/-- `Dsv4ContentBlock`. -/
inductive ContentBlock where
  | text (text : Bytes)
  | toolResult (toolResult toolUseId : Bytes)
  deriving Repr, DecidableEq

/-- `Dsv4ToolDefinition`. -/
structure ToolDefinition where
  functionJson : Bytes
  deriving Repr, DecidableEq

/-- `Dsv4ToolCall`. -/
structure PromptToolCall where
  id : Bytes := []
  name : Bytes := []
  arguments : Bytes := []
  deriving Repr, DecidableEq

/-- `Dsv4PromptMessage`. -/
structure PromptMessage where
  role : PromptRole := .user
  content : Bytes := []
  reasoningContent : Bytes := []
  contentBlocks : List ContentBlock := []
  tools : List ToolDefinition := []
  responseFormatJson : Bytes := []
  toolCalls : List PromptToolCall := []
  toolCallId : Bytes := []
  task : Bytes := []
  woEos : Bool := false
  preencodedIds : List Nat := []
  deriving Repr, DecidableEq

/-- `Dsv4PromptOptions`. -/
structure PromptOptions where
  thinkingMode : ThinkingMode := .chat
  dropThinking : Bool := true
  addDefaultBosToken : Bool := true
  reasoningEffort : Bytes := bytes "low"
  deriving Repr, DecidableEq

/-- `Dsv4PromptEncoder`, with the real-number text of its JSON codec. -/
structure PromptEncoder where
  tokenizer : Tokenizer
  pythonReal : Bytes → Bytes

/-- The template's `Tokens`. -/
structure TemplateTokens where
  bos : Bytes
  eos : Bytes
  thinkingStart : Bytes
  thinkingEnd : Bytes
  user : Bytes
  assistant : Bytes
  latestReminder : Bytes
  dsml : Bytes
  deriving Repr, DecidableEq

/-- `Tokens::task_token`. -/
def taskToken (name : Bytes) : Bytes :=
  bytes "<｜" ++ name ++ bytes "｜>"

/-- `resolve_tokens`. -/
def resolveTokens (tokenizer : Tokenizer) : Except Bytes TemplateTokens := do
  let bos ← tokenizer.addedTokenText (bytes "<｜begin▁of▁sentence｜>")
  let eos ← tokenizer.addedTokenText (bytes "<｜end▁of▁sentence｜>")
  let thinkingStart ← tokenizer.addedTokenText (bytes "<think>")
  let thinkingEnd ← tokenizer.addedTokenText (bytes "</think>")
  let user ← tokenizer.addedTokenText (bytes "<｜User｜>")
  let assistant ← tokenizer.addedTokenText (bytes "<｜Assistant｜>")
  let latestReminder ←
    tokenizer.addedTokenText (bytes "<｜latest_reminder｜>")
  let dsml ← tokenizer.addedTokenText (bytes "｜DSML｜")
  .ok { bos, eos, thinkingStart, thinkingEnd, user, assistant,
        latestReminder, dsml }

/-! ## Tool messages -/

/-- One round of `merge_tool_messages`. -/
def mergeMessage
    (merged : List PromptMessage)
    (original : PromptMessage) : List PromptMessage :=
  let extend (block : ContentBlock) (last : PromptMessage) :=
    merged.dropLast ++
      [{ last with contentBlocks := last.contentBlocks ++ [block] }]
  match original.role with
  | .tool =>
    let block := .toolResult original.content original.toolCallId
    match merged.getLast? with
    | some last =>
      if last.role = .user ∧ last.contentBlocks ≠ [] then
        extend block last
      else
        merged ++ [{ role := .user, contentBlocks := [block] }]
    | none => merged ++ [{ role := .user, contentBlocks := [block] }]
  | .user =>
    let block := .text original.content
    match merged.getLast? with
    | some last =>
      if last.role = .user ∧ last.contentBlocks ≠ [] ∧
          last.task = [] then
        extend block last
      else
        merged ++ [{ original with contentBlocks := [block] }]
    | none => merged ++ [{ original with contentBlocks := [block] }]
  | _ => merged ++ [original]

/-- `merge_tool_messages`. -/
def mergeToolMessages (input : List PromptMessage) : List PromptMessage :=
  input.foldl mergeMessage []

/-- The call order of an assistant message: a later call of an id wins. -/
def callOrder (calls : List PromptToolCall) : List (Bytes × Nat) :=
  calls.zipIdx.foldl
    (fun order (call, index) =>
      if call.id = [] then order else (call.id, index) :: order)
    []

/-- Whether a block holds a tool result. -/
def isToolResult : ContentBlock → Bool
  | .text _ => false
  | .toolResult _ _ => true

/-- The place of a tool result among the calls; an unknown call comes first. -/
def resultOrder
    (order : List (Bytes × Nat)) : ContentBlock → Nat
  | .text _ => 0
  | .toolResult _ toolUseId => (order.lookup toolUseId).getD 0

/-- The blocks with their tool results taken, in turn, from `results`. -/
def replaceResults :
    List ContentBlock → List ContentBlock → List ContentBlock
  | [], _ => []
  | .toolResult _ _ :: blocks, next :: results =>
    next :: replaceResults blocks results
  | block :: blocks, results => block :: replaceResults blocks results

/-- The blocks of one user message, ordered. -/
def sortBlocks
    (order : List (Bytes × Nat))
    (blocks : List ContentBlock) : List ContentBlock :=
  let results := blocks.filter isToolResult
  if results.length ≤ 1 ∨ order = [] then blocks
  else
    replaceResults blocks
      (results.mergeSort fun left right =>
        resultOrder order left ≤ resultOrder order right)

/-- `sort_tool_results`, with the call order so far. -/
def sortToolResults :
    List (Bytes × Nat) → List PromptMessage → List PromptMessage
  | _, [] => []
  | order, message :: rest =>
    if message.role = .assistant ∧ message.toolCalls ≠ [] then
      message :: sortToolResults (callOrder message.toolCalls) rest
    else if message.role ≠ .user ∨ message.contentBlocks = [] then
      message :: sortToolResults order rest
    else
      { message with
        contentBlocks := sortBlocks order message.contentBlocks } ::
          sortToolResults order rest

/-! ## Thinking -/

/-- `is_user_like`. -/
def isUserLike (message : PromptMessage) : Bool :=
  message.role = .user || message.role = .developer

/-- `find_last_user_index`. -/
def findLastUserIndex (messages : List PromptMessage) : Int :=
  match (messages.zipIdx.reverse.find? fun entry => isUserLike entry.1) with
  | some (_, index) => index
  | none => -1

/-- `drop_thinking_messages`. -/
def dropThinkingMessages (messages : List PromptMessage) : List PromptMessage :=
  let lastUserIndex := findLastUserIndex messages
  messages.zipIdx.filterMap fun (message, index) =>
    let keepRole :=
      message.role = .user ∨ message.role = .system ∨
        message.role = .tool ∨ message.role = .latestReminder
    if keepRole ∨ lastUserIndex ≤ (index : Int) then
      some message
    else if message.role = .assistant then
      some { message with reasoningContent := [] }
    else
      none

/-! ## The template's texts -/

/-- `kReasoningEffortHigh`. -/
def reasoningEffortHigh : Bytes :=
  bytes ("Reasoning Effort: Absolute maximum with no shortcuts permitted.\n" ++
    "You MUST be very thorough in your thinking and comprehensively decompose " ++
    "the problem to resolve the root cause, rigorously stress-testing your " ++
    "logic against all potential paths, edge cases, and adversarial " ++
    "scenarios.\n" ++
    "Explicitly write out your entire deliberation process, documenting every " ++
    "intermediate step, considered alternative, and rejected hypothesis to " ++
    "ensure absolutely no assumption is left unchecked.\n\n")

/-- `kReasoningEffortMax`. -/
def reasoningEffortMax : Bytes :=
  bytes ("Reasoning Effort: Beyond maximum — exhaustive, relentless, and " ++
    "uncompromising.\n" ++
    "You MUST reason with the utmost depth and rigor, leaving absolutely " ++
    "nothing to chance: exhaustively decompose the problem into its most " ++
    "fundamental components, trace every causal chain to its root, and " ++
    "resolve the underlying cause rather than any surface symptom.\n" ++
    "Do not stop reasoning until you have independently verified the solution " ++
    "from multiple angles and are certain that no assumption remains " ++
    "unchecked and no error remains undiscovered.\n\n")

/-- `kResponseFormatTemplate`. -/
def responseFormatTemplate : Bytes :=
  bytes ("## Response Format:\n\nYou MUST strictly adhere to the following " ++
    "schema to reply:\n")

/-- `kTemplate` of `render_tools`. -/
def toolsTemplate : Bytes :=
  bytes ("## Tools\n" ++
    "\n" ++
    "You have access to a set of tools to help answer the user's question. " ++
    "You can invoke tools by writing a \"<{dsml}tool_calls>\" block like the " ++
    "following:\n" ++
    "\n" ++
    "<{dsml}tool_calls>\n" ++
    "<{dsml}invoke name=\"$TOOL_NAME\">\n" ++
    "<{dsml}parameter name=\"$PARAMETER_NAME\" " ++
    "string=\"true|false\">$PARAMETER_VALUE</{dsml}parameter>\n" ++
    "...\n" ++
    "</{dsml}invoke>\n" ++
    "<{dsml}invoke name=\"$TOOL_NAME2\">\n" ++
    "...\n" ++
    "</{dsml}invoke>\n" ++
    "</{dsml}tool_calls>\n" ++
    "\n" ++
    "String parameters should be specified as is and set `string=\"true\"`. " ++
    "For all other types (numbers, booleans, arrays, objects), pass the value " ++
    "in JSON format and set `string=\"false\"`.\n" ++
    "\n" ++
    "If thinking_mode is enabled (triggered by {think_start}), you MUST " ++
    "output your complete reasoning inside {think_start}...{think_end} BEFORE " ++
    "any tool calls or final response.\n" ++
    "\n" ++
    "Otherwise, output directly after {think_end} with tool calls or final " ++
    "response.\n" ++
    "\n" ++
    "### Available Tool Schemas\n" ++
    "\n" ++
    "{schemas}\n" ++
    "\n" ++
    "You MUST strictly follow the above defined tool name and parameter " ++
    "schemas to invoke tool calls.\n")

namespace PromptEncoder

variable (encoder : PromptEncoder)

/-- `to_reference_json`. -/
def toReferenceJson (rawJson : Bytes) : Except Bytes Bytes := do
  let value ← PromptJson.parse rawJson
  .ok (value.toPythonJson encoder.pythonReal)

/-- One parameter of `encode_arguments_to_dsml`. -/
def encodeParameter
    (dsml key : Bytes)
    (member : PromptJson) : Bytes :=
  let (isString, value) :=
    match member with
    | .string text => (bytes "true", text)
    | other => (bytes "false", other.toPythonJson encoder.pythonReal)
  bytes "<" ++ dsml ++ bytes "parameter name=\"" ++ key ++
    bytes "\" string=\"" ++ isString ++ bytes "\">" ++ value ++
    bytes "</" ++ dsml ++ bytes "parameter>"

/-- `encode_arguments_to_dsml`. -/
def encodeArgumentsToDsml (arguments dsml : Bytes) : Bytes :=
  let members :=
    match PromptJson.parseObject arguments with
    | .ok members => members
    | .error _ => [(bytes "arguments", .string arguments)]
  Bytes.join (bytes "\n")
    (members.map fun (key, member) =>
      encoder.encodeParameter dsml key member)

/-- `render_tools`. -/
def renderTools
    (tools : List ToolDefinition)
    (tokens : TemplateTokens) : Except Bytes Bytes := do
  let schemas ← tools.mapM fun tool => encoder.toReferenceJson tool.functionJson
  let rendered := toolsTemplate.replaceAll (bytes "{dsml}") tokens.dsml
  let rendered :=
    rendered.replaceAll (bytes "{think_start}") tokens.thinkingStart
  let rendered := rendered.replaceAll (bytes "{think_end}") tokens.thinkingEnd
  .ok (rendered.replaceAll (bytes "{schemas}")
    (Bytes.join (bytes "\n") schemas))

/-- The tools and the response format of a system or developer message. -/
def renderDeclarations
    (tokens : TemplateTokens)
    (message : PromptMessage) : Except Bytes Bytes := do
  let tools ←
    if message.tools = [] then .ok []
    else do
      let rendered ← encoder.renderTools message.tools tokens
      .ok (bytes "\n\n" ++ rendered)
  let format ←
    if message.responseFormatJson = [] then .ok []
    else do
      let schema ← encoder.toReferenceJson message.responseFormatJson
      .ok (bytes "\n\n" ++ responseFormatTemplate ++ schema)
  .ok (tools ++ format)

/-- The tool calls of an assistant message. -/
def renderToolCalls
    (tokens : TemplateTokens)
    (calls : List PromptToolCall) : Bytes :=
  if calls = [] then []
  else
    bytes "\n\n<" ++ tokens.dsml ++ bytes "tool_calls>\n" ++
      Bytes.join (bytes "\n")
        (calls.map fun call =>
          bytes "<" ++ tokens.dsml ++ bytes "invoke name=\"" ++ call.name ++
            bytes "\">\n" ++
            encoder.encodeArgumentsToDsml call.arguments tokens.dsml ++
            bytes "\n</" ++ tokens.dsml ++ bytes "invoke>") ++
      bytes "\n</" ++ tokens.dsml ++ bytes "tool_calls>"

end PromptEncoder

/-! ## Rendering -/

/-- One piece a message emits: text, or a body with its exact ids. -/
inductive Emission where
  | text (text : Bytes)
  | exact (body : Bytes) (ids : List Nat)
  deriving Repr, DecidableEq

/-- `Segment`. -/
structure Segment where
  text : Bytes
  ids : List Nat := []
  deriving Repr, DecidableEq

/-- `emit_text`, and the push of an exact body. -/
def emit
    (segments : List Segment) : Emission → List Segment
  | .exact body ids => segments ++ [{ text := body, ids }]
  | .text text =>
    if text = [] then segments
    else
      match segments.getLast? with
      | some last =>
        if last.ids = [] then
          segments.dropLast ++ [{ last with text := last.text ++ text }]
        else
          segments ++ [{ text := text }]
      | none => segments ++ [{ text := text }]

/-- What `render_segments` fixes before it renders a message. -/
structure RenderContext where
  tokens : TemplateTokens
  thinking : Bool
  reasoningEffort : Bytes
  dropThinking : Bool
  lastUserIndex : Int
  deriving Repr, DecidableEq

/-- One content block of a user message. -/
def renderBlock : ContentBlock → Bytes
  | .text text => text
  | .toolResult toolResult _ =>
    bytes "<tool_result>" ++ toolResult ++ bytes "</tool_result>"

namespace RenderContext

variable (context : RenderContext)

/-- The reasoning-effort prefix of the first message. -/
def effortText (index : Nat) : Bytes :=
  if index = 0 ∧ context.thinking then
    if context.reasoningEffort = bytes "high" then reasoningEffortHigh
    else if context.reasoningEffort = bytes "max" then reasoningEffortMax
    else []
  else []

/-- `thinking_part` of an assistant message. -/
def thinkingPart
    (index : Nat)
    (previousHasTask : Bool)
    (message : PromptMessage) : Bytes :=
  if context.thinking ∧ ¬ previousHasTask ∧
      (¬ context.dropThinking ∨ context.lastUserIndex < (index : Int)) then
    message.reasoningContent ++ context.tokens.thinkingEnd
  else []

end RenderContext

namespace PromptEncoder

variable (encoder : PromptEncoder)
variable (context : RenderContext)

/-- The body of an assistant message. -/
def assistantBody
    (index : Nat)
    (previousHasTask : Bool)
    (message : PromptMessage) : Bytes :=
  context.thinkingPart index previousHasTask message ++ message.content ++
    encoder.renderToolCalls context.tokens message.toolCalls

/-- The role switch: what is emitted, the text after it last. -/
def renderBody
    (index : Nat)
    (previousHasTask : Bool)
    (message : PromptMessage) : Except Bytes (List Emission) := do
  let effort := context.effortText index
  match message.role with
  | .system =>
    let declarations ← encoder.renderDeclarations context.tokens message
    .ok [.text (effort ++ message.content ++ declarations)]
  | .developer =>
    if message.content = [] then
      .error (bytes "Developer message requires content")
    else
      let declarations ← encoder.renderDeclarations context.tokens message
      .ok [.text (effort ++ context.tokens.user ++ message.content ++
        declarations)]
  | .user =>
    let content :=
      if message.contentBlocks = [] then message.content
      else
        Bytes.join (bytes "\n\n") (message.contentBlocks.map renderBlock)
    .ok [.text (effort ++ context.tokens.user ++ content)]
  | .latestReminder =>
    .ok [.text (effort ++ context.tokens.latestReminder ++ message.content)]
  | .tool =>
    .error (bytes ("DSV4 has no standalone tool role; " ++
      "merge tool messages into users"))
  | .assistant =>
    let body := encoder.assistantBody context index previousHasTask message
    let eos := if message.woEos then [] else context.tokens.eos
    if message.preencodedIds = [] then
      .ok [.text (effort ++ body ++ eos)]
    else
      .ok [.exact body message.preencodedIds, .text eos, .text effort]

/-- The transition after a message. -/
def renderTransition
    (index : Nat)
    (message : PromptMessage) : Except Bytes (List Emission) := do
  let tokens := context.tokens
  if message.task ≠ [] then
    let token ← encoder.tokenizer.addedTokenText (taskToken message.task)
    if message.task ≠ bytes "action" then
      .ok [.text token]
    else
      .ok [.text tokens.assistant,
        .text (if context.thinking then tokens.thinkingStart
          else tokens.thinkingEnd),
        .text token]
  else if isUserLike message then
    .ok [.text tokens.assistant,
      .text (
        if context.thinking ∧
            (¬ context.dropThinking ∨
              context.lastUserIndex ≤ (index : Int)) then
          tokens.thinkingStart
        else tokens.thinkingEnd)]
  else
    .ok []

/-- Whether the transition is emitted before `next`. -/
def continues (next : Option PromptMessage) : Bool :=
  match next with
  | none => true
  | some message =>
    message.role = .assistant || message.role = .latestReminder

/-- The transition after a message, when it is emitted before `next`. -/
def transitionBefore
    (index : Nat)
    (message : PromptMessage)
    (next : Option PromptMessage) : Except Bytes (List Emission) :=
  if continues next then encoder.renderTransition context index message
  else .ok []

/-- One round of the render loop. -/
def renderMessage
    (index : Nat)
    (previousHasTask : Bool)
    (message : PromptMessage)
    (next : Option PromptMessage) : Except Bytes (List Emission) := do
  let body ← encoder.renderBody context index previousHasTask message
  let transition ← encoder.transitionBefore context index message next
  .ok (body ++ transition)

/-- The render loop, from the message at `index` on. -/
def renderFrom :
    Nat → Bool → List PromptMessage → Except Bytes (List Emission)
  | _, _, [] => .ok []
  | index, previousHasTask, message :: rest => do
      let emitted ←
        encoder.renderMessage context index previousHasTask message rest.head?
      let others ← renderFrom (index + 1) (message.task ≠ []) rest
      .ok (emitted ++ others)

end PromptEncoder

namespace PromptEncoder

variable (encoder : PromptEncoder)

/-- The messages in render order and the context they are rendered in. -/
def renderInputs
    (messages : List PromptMessage)
    (options : PromptOptions)
    (tokens : TemplateTokens) : RenderContext × List PromptMessage :=
  let thinking := options.thinkingMode = .thinking
  let ordered := sortToolResults [] (mergeToolMessages messages)
  let dropThinking :=
    options.dropThinking && !ordered.any fun message => message.tools ≠ []
  let renderList :=
    if thinking ∧ dropThinking then dropThinkingMessages ordered else ordered
  ({ tokens
     thinking
     reasoningEffort := options.reasoningEffort
     dropThinking
     lastUserIndex := findLastUserIndex renderList }, renderList)

/-- `render_segments`. -/
def renderSegments
    (messages : List PromptMessage)
    (options : PromptOptions) : Except Bytes (List Segment) := do
  let tokens ← resolveTokens encoder.tokenizer
  if options.reasoningEffort ≠ bytes "low" ∧
      options.reasoningEffort ≠ bytes "high" ∧
      options.reasoningEffort ≠ bytes "max" then
    .error (bytes "Invalid reasoning effort: " ++ options.reasoningEffort)
  else
    let (context, renderList) := renderInputs messages options tokens
    let start : List Emission :=
      if options.addDefaultBosToken then [.text tokens.bos] else []
    let emissions ← encoder.renderFrom context 0 false renderList
    .ok ((start ++ emissions).foldl emit [])

/-- `Dsv4PromptEncoder::encode`. -/
def encode
    (messages : List PromptMessage)
    (options : PromptOptions) : Except Bytes Bytes := do
  let segments ← encoder.renderSegments messages options
  .ok (segments.flatMap (·.text))

/-- The tokens of one segment. -/
def segmentTokens (segment : Segment) : Except Bytes (List Nat) :=
  if segment.ids = [] then encoder.tokenizer.encode segment.text
  else .ok segment.ids

/-- The tokens of every segment. -/
def segmentsTokens : List Segment → Except Bytes (List Nat)
  | [] => .ok []
  | segment :: rest => do
      let ids ← encoder.segmentTokens segment
      let others ← segmentsTokens rest
      .ok (ids ++ others)

/-- `Dsv4PromptEncoder::encode_tokens`. -/
def encodeTokens
    (messages : List PromptMessage)
    (options : PromptOptions) : Except Bytes (List Nat) := do
  let segments ← encoder.renderSegments messages options
  encoder.segmentsTokens segments

end PromptEncoder

end Aeon.Text
