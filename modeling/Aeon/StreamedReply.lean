import Aeon.JobStream
import Aeon.ResponseFrames

namespace Aeon.Server

open Aeon.EventStream (Block Receiver Unbroken)
open Aeon.Json (JsonValue RawJson)
open Drain (Frame)

/-!
# Streamed replies

`stream_job` writes a chunk for each frame and a comment while the job waits.  A client
that splits the stream into events and reads each one finds every frame again, whatever
comments stand between them, and the text of a channel when it joins the deltas.
-/

/-- The code of an error answer. -/
def codeText : Drain.ErrorCode → Bytes
  | .invalidRequestError => bytes "invalid_request_error"
  | .contextLengthExceeded => bytes "context_length_exceeded"
  | .internalError => bytes "internal_error"

/-- `error_json`. -/
def errorJson (error : Drain.CodecError) : Option Bytes :=
  written [.beginObject,
    .key (bytes "error"), .beginObject,
    .key (bytes "message"), .value (.string error.message),
    .key (bytes "type"), .value (.string (codeText error.code)),
    .key (bytes "code"), .value (.string (codeText error.code)),
    .endObject,
    .endObject]

/-- A usage in the fields of the writer. -/
def usageFields (usage : Drain.Usage) : Usage :=
  ⟨.ofNat usage.promptTokens, .ofNat usage.completionTokens, .ofNat usage.totalTokens⟩

/-- What `stream_job` writes for a frame. -/
def frameText (envelope : Envelope) : Frame → Option Bytes
  | .role => (chatCompletionChunkRole envelope).map writeData
  | .delta delta =>
    (chatCompletionChunkDelta envelope delta.channel delta.text).map writeData
  | .finish stop => (chatCompletionChunkFinish envelope stop).map writeData
  | .usage usage =>
    (chatCompletionChunkUsage envelope (usageFields usage)).map writeData
  | .done => some (bytes "data: [DONE]\n\n")
  | .error error => (errorJson error).map writeData
  | .queued position =>
    some (bytes ": queued position=" ++ Json.decimal position ++ bytes "\n\n")

/-- A payload a client reads as the first choice of a chunk, with these members. -/
def ReadsChoice (payload : Bytes) (delta reason : JsonValue) : Prop :=
  ∃ document, Json.parse payload = .ok document ∧
    choice document "delta" = some delta ∧ choice document "finish_reason" = some reason

/-- What a client finds in the payload of a frame. -/
def Tells (payload : Bytes) : Frame → Prop
  | .role =>
    ReadsChoice payload (.object [(bytes "role", .string (bytes "assistant"))]) .null
  | .delta delta => ReadsChoice payload
      (.object [(channelKey delta.channel, .string delta.text)]) .null
  | .finish stop => ReadsChoice payload (.object []) (finishReason stop).value
  | .usage usage => ∃ document, Json.parse payload = .ok document ∧
      document.find (bytes "choices") = some (.array []) ∧
      document.find (bytes "usage") =
        some ((usageTree (usageFields usage)).json fun _ => .null).value
  | .done => payload = bytes "[DONE]"
  | .error error => Json.parse payload = .ok (.object [(bytes "error", .object [
      (bytes "message", .string error.message),
      (bytes "type", .string (codeText error.code)),
      (bytes "code", .string (codeText error.code))])])
  | .queued _ => False

/-- The text of a channel in a payload, for a client that joins the deltas. -/
def heard (channel : Channel) (payload : Bytes) : Bytes :=
  match Json.parse payload with
  | .ok document =>
    match (choice document "delta").bind (·.find (channelKey channel)) with
    | some (.string text) => text
    | _ => []
  | .error _ => []

/-- The text of a channel in a frame. -/
def said (channel : Channel) : Frame → Bytes
  | .delta delta => if delta.channel = channel then delta.text else []
  | _ => []

/-! ## Frames and their chunks -/

/-- The JSON of a reason to stop, as a leaf. -/
def reasonLeaf : StopReason → Leaf
  | .eos => .string (bytes "stop")
  | .maxNewTokens => .string (bytes "length")
  | .contextLimit => .string (bytes "length")
  | .cancelled => .null
  | .error => .null

/-- The delta of the first chunk. -/
def roleTree : JsonTree :=
  .object [(bytes "role", .leaf (.string (bytes "assistant")))]

/-- The tree of an error answer. -/
def errorTree (error : Drain.CodecError) : JsonTree :=
  .object [(bytes "error", .object [(bytes "message", .leaf (.string error.message)),
    (bytes "type", .leaf (.string (codeText error.code))),
    (bytes "code", .leaf (.string (codeText error.code)))])]

section Chunks

variable (envelope : Envelope)

theorem chunkRole_eq :
    chatCompletionChunkRole envelope =
      some (compact (splicedChunk envelope (choicesTree roleTree .null) [])) := by
  have choices : bytes "[\x7b\"index\":0,\"delta\":\x7b\"role\":\"assistant\"\x7d," ++
      bytes "\"finish_reason\":null\x7d]" = compact (choicesTree roleTree .null) := by
    decide
  rw [← written_calls, splicedChunk, ← choices]
  rfl

theorem chunkFinish_eq (stop : StopReason) :
    chatCompletionChunkFinish envelope stop = some (compact
      (splicedChunk envelope (choicesTree (.object []) (reasonLeaf stop)) [])) := by
  have choices : bytes "[\x7b\"index\":0,\"delta\":\x7b\x7d,\"finish_reason\":" ++
      finishReasonJson stop ++ bytes "\x7d]" =
        compact (choicesTree (.object []) (reasonLeaf stop)) := by
    cases stop <;> decide
  rw [← written_calls, splicedChunk, ← choices]
  rfl

theorem chunkUsage_eq (usage : Usage) :
    chatCompletionChunkUsage envelope usage = some (compact
      (splicedChunk envelope (.array []) [(bytes "usage", usageTree usage)])) := by
  rw [← written_calls]
  rfl

end Chunks

/-- A frame is written, and its bytes are received as its payload. -/
def Arrives (envelope : Envelope) (frame : Frame) : Prop :=
  ∃ text payloads, frameText envelope frame = some text ∧
    List.Forall₂ Tells payloads ([frame].filter fun frame => !frame.isQueued) ∧
    (∀ channel, payloads.flatMap (heard channel) = said channel frame) ∧
    ∀ receiver : Receiver, receiver.Between →
      receiver.feed text = { receiver with events := receiver.events ++ payloads }

theorem arrives_data
    {envelope : Envelope}
    {frame : Frame}
    {json : Bytes}
    (made : frameText envelope frame = some (writeData json))
    (unbroken : Unbroken json)
    (asked : frame.isQueued = false)
    (tells : Tells json frame)
    (hears : ∀ channel, heard channel json = said channel frame) :
    Arrives envelope frame := by
  refine ⟨_, [json], made, by simpa [asked] using tells, by simpa using hears, ?_⟩
  intro receiver between
  rw [writeData_source]
  exact Receiver.feed_block unbroken between

/-- A chunk with one choice is read as that choice. -/
theorem arrives_choice
    {envelope : Envelope}
    {frame : Frame}
    {delta : JsonTree}
    {reason : Leaf}
    (made : frameText envelope frame = some (writeData (compact
      (splicedChunk envelope (choicesTree delta reason) []))))
    (plainDelta : Plain delta)
    (plainReason : Plain (.leaf reason))
    (asked : frame.isQueued = false)
    (tells : ∀ payload, ReadsChoice payload (delta.json fun _ => .null).value
      ((JsonTree.leaf reason).json fun _ => .null).value → Tells payload frame)
    (hears : ∀ channel,
      (match (delta.json fun _ => .null).value.find (channelKey channel) with
        | some (.string text) => text
        | _ => []) = said channel frame) :
    Arrives envelope frame := by
  have plain := plain_choices plainDelta plainReason
  obtain ⟨document, parsed, choices⟩ :=
    @splicedChunk_reads envelope _ [] plain nofun (by decide)
  have chosen : choice document "delta" = some (delta.json fun _ => .null).value ∧
      choice document "finish_reason" =
        some ((JsonTree.leaf reason).json fun _ => .null).value := by
    rw [choice, choice, choices, choicesTree]
    generalize JsonTree.leaf reason = leaf
    simp [JsonTree.json, elementsJson, membersJson, RawJson.value,
      RawJson.elementValues, RawJson.memberValues]
    exact ⟨rfl, rfl⟩
  refine arrives_data made (@splicedChunk_unbroken envelope _ [] plain nofun) asked
    (tells _ ⟨document, parsed, chosen⟩) fun channel => ?_
  rw [heard, parsed, ← hears channel]
  simp [chosen.1]

theorem delta_value
    (channel : Channel)
    (text : Bytes) :
    ((deltaTree channel text).json fun _ => .null).value =
      .object [(channelKey channel, .string text)] := by
  simp [deltaTree, JsonTree.json, membersJson, RawJson.value, RawJson.memberValues]

theorem reason_value (stop : StopReason) :
    ((JsonTree.leaf (reasonLeaf stop)).json fun _ => .null).value =
      (finishReason stop).value := by
  cases stop <;> rfl

theorem plain_role : Plain roleTree := by
  refine plain_object (List.nodup_singleton _) ?_
  exact List.forall_mem_singleton.mpr (plain_string _)

theorem plain_empty : Plain (.object []) :=
  plain_object List.nodup_nil (fun _ impossible => nomatch impossible)

theorem plain_usage (usage : Usage) : Plain (usageTree usage) := by
  have keys : [bytes "prompt_tokens", bytes "completion_tokens",
      bytes "total_tokens"].Nodup := by decide
  refine plain_object keys ?_
  simp only [List.forall_mem_cons]
  exact ⟨plain_integer _, plain_integer _, plain_integer _, nofun⟩

theorem plain_error (error : Drain.CodecError) : Plain (errorTree error) := by
  have keys : [bytes "message", bytes "type", bytes "code"].Nodup := by decide
  refine plain_object (List.nodup_singleton _)
    (List.forall_mem_singleton.mpr (plain_object keys ?_))
  simp only [List.forall_mem_cons]
  exact ⟨plain_string _, plain_string _, plain_string _, nofun⟩

variable (envelope : Envelope)

theorem usage_arrives (usage : Drain.Usage) : Arrives envelope (.usage usage) := by
  have plainChoices : Plain (.array []) :=
    plain_array fun _ impossible => nomatch impossible
  have plainOthers : ∀ member ∈ [(bytes "usage", usageTree (usageFields usage))],
      Plain member.2 := List.forall_mem_singleton.mpr (plain_usage _)
  have keys : [bytes "id", bytes "object", bytes "created", bytes "model",
      bytes "choices", bytes "usage"].Nodup := by decide
  have parsed := splicedChunk_parses envelope plainChoices plainOthers keys
  refine arrives_data (by rw [frameText, chunkUsage_eq]; rfl)
    (splicedChunk_unbroken envelope plainChoices plainOthers) rfl
    ⟨_, parsed, ?_, ?_⟩ fun channel => ?_
  · rfl
  · rfl
  · rw [heard, parsed]
    rfl

theorem error_arrives (error : Drain.CodecError) : Arrives envelope (.error error) := by
  have plain := plain_error error
  have made : errorJson error = some (compact (errorTree error)) := by
    rw [← written_calls]
    rfl
  have parsed : Json.parse (compact (errorTree error)) =
      .ok ((errorTree error).json fun _ => .null).value :=
    parse_compact (plain.writable _) (plain.acceptable _)
  have value : Tells (compact (errorTree error)) (.error error) := by
    rw [Tells, parsed]
    simp [errorTree, JsonTree.json, membersJson, RawJson.value, RawJson.memberValues]
  refine arrives_data (by rw [frameText, made]; rfl)
    (unbroken_of_printable plain.printable) rfl value fun channel => ?_
  rw [heard, value]
  rfl

theorem queued_arrives (position : Nat) : Arrives envelope (.queued position) := by
  have source : bytes ": queued position=" ++ Json.decimal position ++ bytes "\n\n" =
      (Block.comment (bytes " queued position=" ++ Json.decimal position)).source := by
    have front : bytes ": queued position=" = 0x3a :: bytes " queued position=" := by
      decide
    have breaks : bytes "\n\n" = [0x0a, 0x0a] := by decide
    rw [Block.source, front, breaks, List.cons_append, List.cons_append]
  have whole : Unbroken (bytes " queued position=" ++ Json.decimal position) := by
    refine List.forall_mem_append.mpr ⟨by decide, fun byte isByte => ?_⟩
    have digit := (Json.decimal_run position).all byte isByte
    constructor <;>
      · rintro rfl
        revert digit
        decide
  refine ⟨_, [], rfl, .nil, fun _ => rfl, fun receiver between => ?_⟩
  rw [source, @Receiver.feed_block receiver (.comment _) whole between]
  rfl

/-- Every frame arrives. -/
theorem frame_arrives (frame : Frame) : Arrives envelope frame := by
  cases frame with
  | role =>
    refine arrives_choice (by rw [frameText, chunkRole_eq]; rfl) plain_role plain_null
      rfl ?_ fun channel => by cases channel <;> rfl
    have value : (roleTree.json fun _ => .null).value =
        .object [(bytes "role", .string (bytes "assistant"))] := by
      simp [roleTree, JsonTree.json, membersJson, RawJson.value, RawJson.memberValues]
    rw [value]
    exact fun _ reads => reads
  | delta delta =>
    refine arrives_choice (by rw [frameText, chunkDelta_eq]; rfl)
      (plain_delta delta.channel delta.text) plain_null rfl ?_ ?_ <;>
      rw [delta_value]
    · exact fun _ reads => reads
    · obtain ⟨own, text⟩ := delta
      intro channel
      cases own <;> cases channel <;> rfl
  | finish stop =>
    refine arrives_choice (by rw [frameText, chunkFinish_eq]; rfl) plain_empty ?_ rfl
      ?_ fun _ => rfl
    · cases stop <;> first | exact plain_string _ | exact plain_null
    · rw [reason_value]
      exact fun _ reads => reads
  | usage usage => exact usage_arrives envelope usage
  | done =>
    have made : bytes "data: [DONE]\n\n" = writeData (bytes "[DONE]") := by decide
    have unbroken : ∀ byte ∈ bytes "[DONE]", byte ≠ 0x0a ∧ byte ≠ 0x0d := by decide
    refine arrives_data (congrArg some made) unbroken rfl rfl fun channel => ?_
    cases channel <;> decide
  | error error => exact error_arrives envelope error
  | queued position => exact queued_arrives envelope position

theorem frames_arrive (frames : List Frame) :
    ∃ texts payloads, frames.mapM (frameText envelope) = some texts ∧
      List.Forall₂ Tells payloads (frames.filter fun frame => !frame.isQueued) ∧
      (∀ channel, payloads.flatMap (heard channel) = frames.flatMap (said channel)) ∧
      ∀ receiver : Receiver, receiver.Between →
        receiver.feed texts.flatten =
          { receiver with events := receiver.events ++ payloads } := by
  induction frames with
  | nil =>
    exact ⟨[], [], rfl, .nil, fun _ => rfl, fun receiver _ => by simp [Receiver.feed]⟩
  | cons frame rest ih =>
    obtain ⟨text, own, made, tells, hears, feeds⟩ := frame_arrives envelope frame
    obtain ⟨texts, others, restMade, restTells, restHears, restFeeds⟩ := ih
    refine ⟨text :: texts, own ++ others, by simp [made, restMade], ?_, ?_, ?_⟩
    · rw [← List.singleton_append, List.filter_append]
      exact List.rel_append tells restTells
    · intro channel
      rw [List.flatMap_append, List.flatMap_cons, hears, restHears]
    · intro receiver between
      have behind : Receiver.Between { receiver with events := receiver.events ++ own } :=
        ⟨between.line, between.data, between.afterReturn⟩
      rw [List.flatten_cons, Receiver.feed_append, feeds receiver between]
      exact (restFeeds _ behind).trans (by simp)

end Aeon.Server
