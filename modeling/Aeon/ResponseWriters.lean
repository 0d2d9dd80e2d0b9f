import Aeon.ConversationSeam
import Aeon.JsonWriter

namespace Aeon.Server

open Aeon.Json (Double integerText separated)

/-!
# Responses

The two response shapes of the codec are written call by call, and a chunk is spliced
from a delta and literal text.  `JsonTree.calls` are the calls that describe a tree, so
that each response is the compact text of a tree.
-/

/-! ## The calls of a tree -/

mutual

/-- The calls that describe a tree. -/
def JsonTree.calls : JsonTree → List Call
  | .leaf leaf => [.value leaf]
  | .array elements => .beginArray :: (elementCalls elements ++ [.endArray])
  | .object members => .beginObject :: (memberCalls members ++ [.endObject])

/-- The calls of the elements. -/
def elementCalls : List JsonTree → List Call
  | [] => []
  | element :: rest => element.calls ++ elementCalls rest

/-- The calls of the members. -/
def memberCalls : List (Bytes × JsonTree) → List Call
  | [] => []
  | (name, member) :: rest => .key name :: (member.calls ++ memberCalls rest)

end

/-- Induction on a tree through the lists of its children. -/
@[elab_as_elim]
theorem JsonTree.induct
    {motive : JsonTree → Prop}
    (leaf : ∀ leaf, motive (.leaf leaf))
    (array : ∀ elements, (∀ element ∈ elements, motive element) →
      motive (.array elements))
    (object : ∀ members, (∀ member ∈ members, motive member.2) →
      motive (.object members)) :
    ∀ tree, motive tree
  | .leaf value => leaf value
  | .array elements =>
    array elements fun element _ => induct leaf array object element
  | .object members =>
    object members fun member _ => induct leaf array object member.2
termination_by tree => sizeOf tree
decreasing_by
  · have smaller := List.sizeOf_lt_of_mem ‹element ∈ elements›
    simp only [JsonTree.array.sizeOf_spec]
    omega
  · have smaller := List.sizeOf_lt_of_mem ‹member ∈ members›
    have part : sizeOf member.2 < sizeOf member := by
      cases member
      simp
    simp only [JsonTree.object.sizeOf_spec]
    omega

theorem elementCalls_eq (elements : List JsonTree) :
    elementCalls elements = elements.flatMap JsonTree.calls := by
  induction elements with
  | nil => rfl
  | cons element rest ih =>
    rw [elementCalls, ih, List.flatMap_cons]

theorem memberCalls_eq (members : List (Bytes × JsonTree)) :
    memberCalls members =
      members.flatMap fun member => .key member.1 :: member.2.calls := by
  induction members with
  | nil => rfl
  | cons member rest ih =>
    rw [memberCalls, ih, List.flatMap_cons, List.cons_append]

/-- The calls a tree is written with nest. -/
theorem nests_calls (tree : JsonTree) : Nests tree.calls tree := by
  induction tree using JsonTree.induct with
  | leaf leaf => exact .value leaf
  | array elements ih =>
    have nests := @Nests.array (elements.map fun element => (element.calls, element))
      (List.forall_mem_map.mpr ih)
    rw [List.flatMap_map, List.map_map] at nests
    simpa [JsonTree.calls, elementCalls_eq, Function.comp_def] using nests
  | object members ih =>
    have nests := @Nests.object
      (members.map fun member => (member.1, member.2.calls, member.2))
      (List.forall_mem_map.mpr ih)
    rw [List.flatMap_map, List.map_map] at nests
    simpa [JsonTree.calls, memberCalls_eq, Function.comp_def] using nests

/-- And nested calls are those of a tree. -/
theorem Nests.calls_eq
    {calls : List Call}
    {tree : JsonTree}
    (nests : Nests calls tree) :
    calls = tree.calls := by
  induction nests with
  | value leaf => rfl
  | @array parts _ ih =>
    rw [JsonTree.calls, elementCalls_eq, List.flatMap_map]
    congr 2
    exact List.flatMap_congr ih
  | @object parts _ ih =>
    rw [JsonTree.calls, memberCalls_eq, List.flatMap_map]
    congr 2
    exact List.flatMap_congr fun part isPart => by
      rw [ih part isPart]

/-- What a new writer holds after the calls. -/
def written (calls : List Call) : Option Bytes :=
  (run calls {}).map Writer.out

/-- What the calls of a tree write is its compact text. -/
theorem written_calls (tree : JsonTree) : written tree.calls = some (compact tree) := by
  rw [written, run_nests (nests_calls tree) fun _ => rfl]
  rfl

/-! ## The responses -/

/-- `Usage`. -/
structure Usage where
  promptTokens : UInt32 := 0
  completionTokens : UInt32 := 0
  totalTokens : UInt32 := 0
  deriving DecidableEq

/-- `Timings`. -/
structure Timings where
  ttftMs : Double := .finite 0
  decodeTokensPerSecond : Double := .finite 0
  reusedTokens : UInt32 := 0
  prefilledTokens : UInt32 := 0
  reuseVerdict : Bytes := []
  seed : UInt64 := 0

/-- What the responses of one request share; `created` is the clock's answer. -/
structure Envelope where
  id : Bytes
  model : Bytes
  created : Int64

/-- An unsigned count as the writer takes it. -/
def count (value : UInt32) : Leaf :=
  .integer (Int64.ofNat value.toNat)

/-- `finish_reason_json`. -/
def finishReasonJson : StopReason → Bytes
  | .eos => bytes "\"stop\""
  | .maxNewTokens => bytes "\"length\""
  | .contextLimit => bytes "\"length\""
  | .cancelled => bytes "null"
  | .error => bytes "null"

variable (envelope : Envelope)

/-- `write_chunk_envelope`. -/
def chunkEnvelope
    (choicesBody : Bytes) : List Call :=
  [.beginObject,
    .key (bytes "id"), .value (.string envelope.id),
    .key (bytes "object"), .value (.string (bytes "chat.completion.chunk")),
    .key (bytes "created"), .value (.integer envelope.created),
    .key (bytes "model"), .value (.string envelope.model),
    .key (bytes "choices"), .value (.raw choicesBody),
    .endObject]

/-- `chat_completion_chunk_role`. -/
def chatCompletionChunkRole (envelope : Envelope) : Option Bytes :=
  written (chunkEnvelope envelope
    (bytes "[\x7b\"index\":0,\"delta\":\x7b\"role\":\"assistant\"\x7d," ++
      bytes "\"finish_reason\":null\x7d]"))

/-- The member of a delta. -/
def channelKey : Channel → Bytes
  | .reasoning => bytes "reasoning_content"
  | .content => bytes "content"

/-- `chat_completion_chunk_delta`. -/
def chatCompletionChunkDelta
    (channel : Channel)
    (text : Bytes) : Option Bytes := do
  let delta ← written [.beginObject, .key (channelKey channel), .value (.string text),
    .endObject]
  written (chunkEnvelope envelope
    (bytes "[\x7b\"index\":0,\"delta\":" ++ delta ++ bytes ",\"finish_reason\":null\x7d]"))

/-- `chat_completion_chunk_finish`. -/
def chatCompletionChunkFinish
    (stop : StopReason) : Option Bytes :=
  written (chunkEnvelope envelope
    (bytes "[\x7b\"index\":0,\"delta\":\x7b\x7d,\"finish_reason\":" ++
      finishReasonJson stop ++ bytes "\x7d]"))

/-- The calls of a usage object. -/
def usageCalls (usage : Usage) : List Call :=
  [.beginObject,
    .key (bytes "prompt_tokens"), .value (count usage.promptTokens),
    .key (bytes "completion_tokens"), .value (count usage.completionTokens),
    .key (bytes "total_tokens"), .value (count usage.totalTokens),
    .endObject]

/-- `chat_completion_chunk_usage`. -/
def chatCompletionChunkUsage
    (usage : Usage) : Option Bytes :=
  written (
    ([.beginObject,
      .key (bytes "id"), .value (.string envelope.id),
      .key (bytes "object"), .value (.string (bytes "chat.completion.chunk")),
      .key (bytes "created"), .value (.integer envelope.created),
      .key (bytes "model"), .value (.string envelope.model),
      .key (bytes "choices"), .value (.raw (bytes "[]")),
      .key (bytes "usage")] : List Call) ++
    usageCalls usage ++ ([.endObject] : List Call))

/-- The calls of a timings object. -/
def timingsCalls (timings : Timings) : List Call :=
  [.beginObject,
    .key (bytes "ttft_ms"), .value (.number timings.ttftMs),
    .key (bytes "decode_tokens_per_second"),
    .value (.number timings.decodeTokensPerSecond),
    .key (bytes "reused_tokens"), .value (count timings.reusedTokens),
    .key (bytes "prefilled_tokens"), .value (count timings.prefilledTokens),
    .key (bytes "reuse_verdict"), .value (.string timings.reuseVerdict),
    .key (bytes "seed"), .value (.integer timings.seed.toInt64),
    .endObject]

/-- `chat_completion`. -/
def chatCompletion
    (reasoningContent content : Bytes)
    (stop : StopReason)
    (usage : Usage)
    (timings : Timings) : Option Bytes :=
  written (
    ([.beginObject,
      .key (bytes "id"), .value (.string envelope.id),
      .key (bytes "object"), .value (.string (bytes "chat.completion")),
      .key (bytes "created"), .value (.integer envelope.created),
      .key (bytes "model"), .value (.string envelope.model),
      .key (bytes "choices"), .beginArray, .beginObject,
      .key (bytes "index"), .value (.integer 0),
      .key (bytes "message"), .beginObject,
      .key (bytes "role"), .value (.string (bytes "assistant")),
      .key (bytes "content"), .value (.string content)] : List Call) ++
    (if reasoningContent = [] then ([] : List Call)
      else [.key (bytes "reasoning_content"), .value (.string reasoningContent)]) ++
    ([.endObject,
      .key (bytes "finish_reason"), .value (.raw (finishReasonJson stop)),
      .endObject, .endArray,
      .key (bytes "usage")] : List Call) ++
    usageCalls usage ++ ([.key (bytes "timings")] : List Call) ++
    timingsCalls timings ++ ([.endObject] : List Call))

/-! ## Their trees -/

/-- The tree of a chunk. -/
def chunkTree
    (choices : JsonTree)
    (others : List (Bytes × JsonTree)) : JsonTree :=
  .object ([(bytes "id", .leaf (.string envelope.id)),
    (bytes "object", .leaf (.string (bytes "chat.completion.chunk"))),
    (bytes "created", .leaf (.integer envelope.created)),
    (bytes "model", .leaf (.string envelope.model)),
    (bytes "choices", choices)] ++ others)

/-- The tree of the choices of a chunk. -/
def choicesTree
    (delta : JsonTree)
    (finishReason : Leaf) : JsonTree :=
  .array [.object [(bytes "index", .leaf (.integer 0)), (bytes "delta", delta),
    (bytes "finish_reason", .leaf finishReason)]]

/-- The tree of a delta. -/
def deltaTree
    (channel : Channel)
    (text : Bytes) : JsonTree :=
  .object [(channelKey channel, .leaf (.string text))]

theorem chunkDelta_eq
    (channel : Channel)
    (text : Bytes) :
    chatCompletionChunkDelta envelope channel text =
      some (compact (chunkTree envelope
        (.leaf (.raw (compact (choicesTree (deltaTree channel text) .null)))) [])) := by
  have delta : written [.beginObject, .key (channelKey channel),
      .value (.string text), .endObject] = some (compact (deltaTree channel text)) :=
    written_calls (deltaTree channel text)
  have choices : bytes "[\x7b\"index\":0,\"delta\":" ++
        compact (deltaTree channel text) ++ bytes ",\"finish_reason\":null\x7d]" =
      compact (choicesTree (deltaTree channel text) .null) := by
    have front : bytes "[\x7b\"index\":0,\"delta\":" =
        0x5b :: 0x7b :: (Writer.quote (bytes "index") ++ 0x3a ::
          (integerText (0 : Int64).toInt ++ 0x2c ::
            (Writer.quote (bytes "delta") ++ [0x3a]))) := by decide
    have back : bytes ",\"finish_reason\":null\x7d]" =
        0x2c :: (Writer.quote (bytes "finish_reason") ++ 0x3a ::
          (bytes "null" ++ [0x7d, 0x5d])) := by decide
    rw [front, back]
    simp [choicesTree, compact, compactElements, compactMembers, separated, Leaf.text]
  have whole := written_calls (chunkTree envelope
    (.leaf (.raw (compact (choicesTree (deltaTree channel text) .null)))) [])
  rw [← choices] at whole ⊢
  rw [← whole, chatCompletionChunkDelta, delta]
  rfl

/-- The tree of a message; reasoning that is empty is left out. -/
def messageTree (reasoningContent content : Bytes) : JsonTree :=
  .object ([(bytes "role", .leaf (.string (bytes "assistant"))),
    (bytes "content", .leaf (.string content))] ++
      if reasoningContent = [] then []
      else [(bytes "reasoning_content", .leaf (.string reasoningContent))])

/-- The tree of a usage object. -/
def usageTree (usage : Usage) : JsonTree :=
  .object [(bytes "prompt_tokens", .leaf (count usage.promptTokens)),
    (bytes "completion_tokens", .leaf (count usage.completionTokens)),
    (bytes "total_tokens", .leaf (count usage.totalTokens))]

/-- The tree of a timings object. -/
def timingsTree (timings : Timings) : JsonTree :=
  .object [(bytes "ttft_ms", .leaf (.number timings.ttftMs)),
    (bytes "decode_tokens_per_second", .leaf (.number timings.decodeTokensPerSecond)),
    (bytes "reused_tokens", .leaf (count timings.reusedTokens)),
    (bytes "prefilled_tokens", .leaf (count timings.prefilledTokens)),
    (bytes "reuse_verdict", .leaf (.string timings.reuseVerdict)),
    (bytes "seed", .leaf (.integer timings.seed.toInt64))]

/-- The tree of a completion. -/
def completionTree
    (message : JsonTree)
    (stop : StopReason)
    (usage : Usage)
    (timings : Timings) : JsonTree :=
  .object [(bytes "id", .leaf (.string envelope.id)),
    (bytes "object", .leaf (.string (bytes "chat.completion"))),
    (bytes "created", .leaf (.integer envelope.created)),
    (bytes "model", .leaf (.string envelope.model)),
    (bytes "choices", .array [.object [(bytes "index", .leaf (.integer 0)),
      (bytes "message", message),
      (bytes "finish_reason", .leaf (.raw (finishReasonJson stop)))]]),
    (bytes "usage", usageTree usage), (bytes "timings", timingsTree timings)]

theorem chatCompletion_eq
    (reasoningContent content : Bytes)
    (stop : StopReason)
    (usage : Usage)
    (timings : Timings) :
    chatCompletion envelope reasoningContent content stop usage timings =
      some (compact (completionTree envelope (messageTree reasoningContent content) stop
        usage timings)) := by
  rw [← written_calls, chatCompletion, messageTree]
  by_cases empty : reasoningContent = []
  · rw [if_pos empty, if_pos empty]
    rfl
  · rw [if_neg empty, if_neg empty]
    rfl

end Aeon.Server
