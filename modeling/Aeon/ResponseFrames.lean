import Aeon.EventStream
import Aeon.PromptUnique
import Aeon.ResponseDocuments

namespace Aeon.Server

open Aeon.EventStream (Block Receiver Unbroken)
open Aeon.Json (Document JsonValue Printable RawJson Spells integerText stod)
open Aeon.Text.PromptJson (tokenOf)

/-!
# Responses decode to what was said

The frame of a delta is one event of the stream, and the server's own reader finds the
text in it.  A whole answer is a JSON document with the strings it was written from.
Empty reasoning is left out of an answer, and only finite numbers are JSON.
-/

/-! ## Numbers in range -/

/-- An integer of 64 bits is within a double's range. -/
theorem stod_integerText (value : Int64) :
    (stod (integerText value.toInt)).isSome := by
  have literal := (Json.integerText_literal value.toInt).decimalValue
  have lower := value.le_toInt
  have upper := value.toInt_lt
  rw [stod, literal]
  by_cases zero : value.toInt = 0
  · simp [zero, Binary64.nearest]
  · refine Binary64.nearest_isSome ?_ ?_
    · rw [← Int.cast_abs]
      exact_mod_cast Int.one_le_abs zero
    · have magnitude : |value.toInt| ≤ 2 ^ 63 := abs_le.mpr ⟨by omega, by omega⟩
      calc |((value.toInt : ℤ) : ℚ)| ≤ 2 ^ 63 := by
            rw [← Int.cast_abs]
            exact_mod_cast magnitude
        _ < 2 ^ 1023 := pow_lt_pow_right₀ (by norm_num) (by norm_num)

/-! ## A reader's way to the first choice -/

/-- `choices[0]` of a response, and a member of it. -/
def choice
    (document : JsonValue)
    (key : String) : Option JsonValue :=
  match document.find (bytes "choices") with
  | some (.array (first :: _)) => first.find (bytes key)
  | _ => none

/-- `write_data` of `stream_job`. -/
def writeData (json : Bytes) : Bytes :=
  bytes "data: " ++ json ++ bytes "\n\n"

theorem writeData_source (json : Bytes) :
    writeData json = (Block.event json).source := by
  have breaks : bytes "\n\n" = [0x0a, 0x0a] := by decide
  rw [writeData, breaks, Block.source, List.append_assoc]

/-- What a client makes of the frame of a delta. -/
structure DecodesDelta
    (channel : Channel)
    (text frame : Bytes) : Prop where
  unbroken : Unbroken frame
  parsed : ∃ document, Json.parse frame = .ok document ∧
    choice document "delta" = some (.object [(channelKey channel, .string text)])
  oneEvent : ∀ receiver : Receiver, receiver.Between →
    receiver.feed (writeData frame) =
      { receiver with events := receiver.events ++ [frame] }

/-- The measurements are numbers of JSON. -/
structure Timings.Finite (timings : Timings) : Prop where
  ttftMs : timings.ttftMs.IsFinite
  decodeTokensPerSecond : timings.decodeTokensPerSecond.IsFinite

/-- The measurements are read back without a range error. -/
structure Timings.InRange (timings : Timings) : Prop where
  ttftMs : (stod (jsonNumber timings.ttftMs)).isSome
  decodeTokensPerSecond : (stod (jsonNumber timings.decodeTokensPerSecond)).isSome

/-- What a client makes of a whole answer. -/
def DecodesMessage
    (reasoningContent content : Bytes)
    (timings : Timings)
    (document : Bytes) : Prop :=
  ∃ tree message, Document .rfc document tree ∧
    (timings.InRange → Json.parse document = .ok tree.value) ∧
    choice tree.value "message" = some message ∧
    message.find (bytes "content") = some (.string content) ∧
    message.find (bytes "reasoning_content") =
      if reasoningContent = [] then none else some (.string reasoningContent)

/-! ## Acceptance -/

@[simp]
theorem acceptable_string (tokens : List Json.Token) : (RawJson.string tokens).Acceptable :=
  trivial

@[simp]
theorem acceptable_integer (value : Int64) :
    (RawJson.number (integerText value.toInt)).Acceptable :=
  stod_integerText value

/-! ## Chunks -/

/-- A tree of strings, integers and such, whose objects have distinct keys. -/
structure Plain (tree : JsonTree) : Prop where
  noNumber : ∀ value, .value (.number value) ∉ tree.calls
  noRaw : ∀ text, .value (.raw text) ∉ tree.calls
  acceptable : ∀ spliced, (tree.json spliced).Acceptable

theorem plain_string (text : Bytes) : Plain (.leaf (.string text)) :=
  ⟨by simp [JsonTree.calls], by simp [JsonTree.calls], fun _ => trivial⟩

theorem plain_integer (value : Int64) : Plain (.leaf (.integer value)) :=
  ⟨by simp [JsonTree.calls], by simp [JsonTree.calls], fun _ => stod_integerText value⟩

theorem plain_null : Plain (.leaf .null) :=
  ⟨by simp [JsonTree.calls], by simp [JsonTree.calls], fun _ => trivial⟩

theorem plain_array
    {elements : List JsonTree}
    (each : ∀ element ∈ elements, Plain element) :
    Plain (.array elements) where
  noNumber value isCall := by
    obtain ⟨element, isElement, isNumber⟩ : ∃ element ∈ elements,
        .value (.number value) ∈ element.calls := by
      simpa [JsonTree.calls, elementCalls_eq] using isCall
    exact (each element isElement).noNumber value isNumber
  noRaw text isCall := by
    obtain ⟨element, isElement, isRaw⟩ : ∃ element ∈ elements,
        .value (.raw text) ∈ element.calls := by
      simpa [JsonTree.calls, elementCalls_eq] using isCall
    exact (each element isElement).noRaw text isRaw
  acceptable spliced := by
    rw [JsonTree.json, elementsJson_eq, RawJson.acceptable_array, List.forall_mem_map]
    exact fun element isElement => (each element isElement).acceptable spliced

theorem plain_object
    {members : List (Bytes × JsonTree)}
    (distinct : (members.map Prod.fst).Nodup)
    (each : ∀ member ∈ members, Plain member.2) :
    Plain (.object members) where
  noNumber value isCall := by
    obtain ⟨member, isMember, isNumber⟩ : ∃ member ∈ members,
        .value (.number value) ∈ member.2.calls := by
      simpa [JsonTree.calls, memberCalls_eq] using isCall
    exact (each member isMember).noNumber value isNumber
  noRaw text isCall := by
    obtain ⟨member, isMember, isRaw⟩ : ∃ member ∈ members,
        .value (.raw text) ∈ member.2.calls := by
      simpa [JsonTree.calls, memberCalls_eq] using isCall
    exact (each member isMember).noRaw text isRaw
  acceptable spliced := by
    rw [JsonTree.json, membersJson_eq, RawJson.acceptable_object, List.map_map,
      List.forall_mem_map]
    exact ⟨by simpa [Function.comp_def] using distinct,
      fun member isMember => (each member isMember).acceptable spliced⟩

theorem plain_choices
    {delta : JsonTree}
    {reason : Leaf}
    (plainDelta : Plain delta)
    (plainReason : Plain (.leaf reason)) :
    Plain (choicesTree delta reason) := by
  have keys : [bytes "index", bytes "delta", bytes "finish_reason"].Nodup := by decide
  refine plain_array (List.forall_mem_singleton.mpr (plain_object keys ?_))
  simp only [List.forall_mem_cons]
  exact ⟨plain_integer 0, plainDelta, plainReason, nofun⟩

section

variable
    {tree : JsonTree}
    (plain : Plain tree)

include plain

theorem Plain.writable
    (spliced : Bytes → RawJson) :
    Writable spliced tree.calls :=
  ⟨fun value isCall => absurd isCall (plain.noNumber value),
    fun text isCall => absurd isCall (plain.noRaw text)⟩

theorem Plain.printable :
    ∀ byte ∈ compact tree, Printable byte :=
  compact_printable fun text isCall => absurd isCall (plain.noRaw text)

end

theorem unbroken_of_printable
    {text : Bytes}
    (printable : ∀ byte ∈ text, Printable byte) :
    Unbroken text := by
  intro byte isByte
  have isPrintable := printable byte isByte
  constructor <;>
    · rintro rfl
      exact isPrintable (by decide)

theorem parse_compact
    {tree : JsonTree}
    {spliced : Bytes → RawJson}
    (writable : Writable spliced tree.calls)
    (acceptable : (tree.json spliced).Acceptable) :
    Json.parse (compact tree) = .ok (tree.json spliced).value :=
  Json.parse_iff.mpr ⟨_, document_compact tree writable, acceptable, rfl⟩

section Chunks

variable
    (envelope : Envelope)
    {choices : JsonTree}
    {others : List (Bytes × JsonTree)}

/-- A chunk whose choices are spliced in. -/
def splicedChunk
    (envelope : Envelope)
    (choices : JsonTree)
    (others : List (Bytes × JsonTree)) : JsonTree :=
  chunkTree envelope (.leaf (.raw (compact choices))) others

/-- The JSON of the choices in place of their text. -/
def splice
    (choices : JsonTree)
    (_ : Bytes) : RawJson :=
  choices.json fun _ => .null

theorem splicedChunk_raw
    (plainOthers : ∀ member ∈ others, Plain member.2)
    {raw : Bytes}
    (isCall : .value (.raw raw) ∈ (splicedChunk envelope choices others).calls) :
    raw = compact choices := by
  have cases : raw = compact choices ∨
      ∃ member ∈ others, .value (.raw raw) ∈ member.2.calls := by
    simpa [splicedChunk, chunkTree, JsonTree.calls, memberCalls_eq] using isCall
  rcases cases with same | ⟨member, isMember, isRaw⟩
  · exact same
  · exact absurd isRaw ((plainOthers member isMember).noRaw raw)

section

variable
    (plainChoices : Plain choices)
    (plainOthers : ∀ member ∈ others, Plain member.2)

include plainChoices plainOthers

theorem splicedChunk_writable :
    Writable (splice choices) (splicedChunk envelope choices others).calls := by
  constructor
  · intro value isCall
    have listed : ∃ member ∈ others, .value (.number value) ∈ member.2.calls := by
      simpa [splicedChunk, chunkTree, JsonTree.calls, memberCalls_eq] using isCall
    obtain ⟨member, isMember, isNumber⟩ := listed
    exact absurd isNumber ((plainOthers member isMember).noNumber value)
  · intro raw isCall
    rw [splicedChunk_raw envelope plainOthers isCall]
    exact spells_compact choices (plainChoices.writable _)

/-- A chunk is written within one line. -/
theorem splicedChunk_unbroken :
    Unbroken (compact (splicedChunk envelope choices others)) := by
  refine unbroken_of_printable (compact_printable fun raw isCall => ?_)
  rw [splicedChunk_raw envelope plainOthers isCall]
  exact plainChoices.printable

theorem splicedChunk_parses
    (distinct : ([bytes "id", bytes "object", bytes "created", bytes "model",
      bytes "choices"] ++ others.map Prod.fst).Nodup) :
    Json.parse (compact (splicedChunk envelope choices others)) =
      .ok ((splicedChunk envelope choices others).json (splice choices)).value := by
  have allPlain : ∀ member ∈ others, (member.2.json (splice choices)).Acceptable :=
    fun member isMember => (plainOthers member isMember).acceptable _
  have acceptable :
      ((splicedChunk envelope choices others).json (splice choices)).Acceptable := by
    rw [splicedChunk, chunkTree, JsonTree.json, membersJson_eq,
      RawJson.acceptable_object, List.map_map, List.forall_mem_map]
    constructor
    · simpa [Function.comp_def] using distinct
    · simp only [List.forall_mem_append, List.forall_mem_cons]
      exact ⟨⟨trivial, trivial, stod_integerText envelope.created, trivial,
        plainChoices.acceptable _, List.forall_mem_nil _⟩, allPlain⟩
  exact parse_compact (splicedChunk_writable envelope plainChoices plainOthers) acceptable

theorem splicedChunk_reads
    (distinct : ([bytes "id", bytes "object", bytes "created", bytes "model",
      bytes "choices"] ++ others.map Prod.fst).Nodup) :
    ∃ document, Json.parse (compact (splicedChunk envelope choices others)) =
        .ok document ∧
      document.find (bytes "choices") = some (choices.json fun _ => .null).value := by
  refine ⟨_, splicedChunk_parses envelope plainChoices plainOthers distinct, ?_⟩
  simp only [splicedChunk, chunkTree, JsonTree.json, membersJson_eq, List.map_append,
    List.map_cons, RawJson.value, RawJson.memberValues_eq, stringText_tokenOf]
  rfl

end

end Chunks

/-! ## The frame of a delta -/

section Delta

variable
    (envelope : Envelope)
    (channel : Channel)
    (text : Bytes)

theorem plain_delta : Plain (deltaTree channel text) := by
  refine plain_object (List.nodup_singleton _) ?_
  exact List.forall_mem_singleton.mpr (plain_string text)

theorem chunkDelta_decodes :
    ∃ frame, chatCompletionChunkDelta envelope channel text = some frame ∧
      DecodesDelta channel text frame := by
  have plain := plain_choices (plain_delta channel text) plain_null
  have unbroken := @splicedChunk_unbroken envelope _ [] plain nofun
  obtain ⟨document, parsed, choices⟩ :=
    @splicedChunk_reads envelope _ [] plain nofun (by decide)
  have chosen : choice document "delta" =
      some (.object [(channelKey channel, .string text)]) := by
    rw [choice, choices]
    simp [choicesTree, deltaTree, JsonTree.json, elementsJson, membersJson, RawJson.value,
      RawJson.elementValues, RawJson.memberValues]
    rfl
  refine ⟨_, chunkDelta_eq envelope channel text, unbroken, ⟨document, parsed, chosen⟩, ?_⟩
  intro receiver between
  rw [writeData_source]
  exact Receiver.feed_block unbroken between

end Delta

/-! ## A whole answer -/

section Completion

variable
    (envelope : Envelope)
    (reasoningContent content : Bytes)
    (stop : StopReason)
    (usage : Usage)
    (timings : Timings)

/-- The JSON of a reason to stop. -/
def finishReason : StopReason → RawJson
  | .eos => .string ((bytes "stop").map tokenOf)
  | .maxNewTokens => .string ((bytes "length").map tokenOf)
  | .contextLimit => .string ((bytes "length").map tokenOf)
  | .cancelled => .null
  | .error => .null

theorem spells_finishReason (stop : StopReason) :
    Spells .rfc (finishReasonJson stop) (finishReason stop) := by
  cases stop with
  | eos => exact spells_quote (bytes "stop")
  | maxNewTokens | contextLimit => exact spells_quote (bytes "length")
  | cancelled | error => exact .null

/-- The tree of an answer. -/
def answerTree : JsonTree :=
  completionTree envelope (messageTree reasoningContent content) stop usage timings

/-- The JSON of an answer. -/
def answerDocument : RawJson :=
  (answerTree envelope reasoningContent content stop usage timings).json
    fun _ => finishReason stop

variable {timings} in
theorem answerTree_writable (finite : timings.Finite) :
    Writable (fun _ => finishReason stop)
      (answerTree envelope reasoningContent content stop usage timings).calls := by
  constructor
  · intro value isCall
    have measured : value = timings.ttftMs ∨ value = timings.decodeTokensPerSecond := by
      by_cases empty : reasoningContent = [] <;>
        simpa [answerTree, completionTree, messageTree, usageTree, timingsTree, count,
          JsonTree.calls, elementCalls, memberCalls, empty] using isCall
    rcases measured with rfl | rfl
    · exact finite.ttftMs
    · exact finite.decodeTokensPerSecond
  · intro text isCall
    have same : text = finishReasonJson stop := by
      by_cases empty : reasoningContent = [] <;>
        simpa [answerTree, completionTree, messageTree, usageTree, timingsTree, count,
          JsonTree.calls, elementCalls, memberCalls, empty] using isCall
    rw [same]
    exact spells_finishReason stop

/-- The message of an answer, as a reader finds it. -/
def messageMembers : List (Bytes × JsonValue) :=
  [(bytes "role", .string (bytes "assistant")), (bytes "content", .string content)] ++
    if reasoningContent = [] then []
    else [(bytes "reasoning_content", .string reasoningContent)]

theorem answerDocument_choice :
    choice (answerDocument envelope reasoningContent content stop usage timings).value
        "message" =
      some (.object (messageMembers reasoningContent content)) := by
  unfold messageMembers
  by_cases empty : reasoningContent = []
  · simp [answerDocument, answerTree, completionTree, messageTree, usageTree, timingsTree,
      count, JsonTree.json, elementsJson, membersJson, RawJson.value,
      RawJson.elementValues, RawJson.memberValues, empty]
    rfl
  · simp [answerDocument, answerTree, completionTree, messageTree, usageTree, timingsTree,
      count, JsonTree.json, elementsJson, membersJson, RawJson.value,
      RawJson.elementValues, RawJson.memberValues, empty]
    rfl

variable {timings} in
theorem answerDocument_acceptable (inRange : timings.InRange) :
    (answerDocument envelope reasoningContent content stop usage timings).Acceptable := by
  have answerKeys : [bytes "id", bytes "object", bytes "created", bytes "model",
      bytes "choices", bytes "usage", bytes "timings"].Nodup := by decide
  have choiceKeys : [bytes "index", bytes "message", bytes "finish_reason"].Nodup := by
    decide
  have messageKeys : [bytes "role", bytes "content"].Nodup ∧
      [bytes "role", bytes "content", bytes "reasoning_content"].Nodup := by decide
  have usageKeys : [bytes "prompt_tokens", bytes "completion_tokens",
      bytes "total_tokens"].Nodup := by decide
  have timingKeys : [bytes "ttft_ms", bytes "decode_tokens_per_second",
      bytes "reused_tokens", bytes "prefilled_tokens", bytes "reuse_verdict",
      bytes "seed"].Nodup := by decide
  have zero : (RawJson.number (integerText 0)).Acceptable := acceptable_integer 0
  have reason : (finishReason stop).Acceptable := by cases stop <;> trivial
  have first : (RawJson.number (jsonNumber timings.ttftMs)).Acceptable := inRange.ttftMs
  have speed : (RawJson.number (jsonNumber timings.decodeTokensPerSecond)).Acceptable :=
    inRange.decodeTokensPerSecond
  by_cases empty : reasoningContent = [] <;>
    simp [-Int64.toInt_ofNat', answerDocument, answerTree, completionTree, messageTree, usageTree, timingsTree,
      count, JsonTree.json, elementsJson, membersJson, RawJson.acceptable_object,
      RawJson.acceptable_array, answerKeys, choiceKeys, messageKeys, usageKeys, timingKeys,
      zero, reason, first, speed, empty]

variable {timings} in
/-- A whole answer is a document with the strings it was written from. -/
theorem completion_decodes (finite : timings.Finite) :
    ∃ document,
      chatCompletion envelope reasoningContent content stop usage timings = some document ∧
        DecodesMessage reasoningContent content timings document := by
  have document := document_compact _
    (answerTree_writable envelope reasoningContent content stop usage finite)
  have contentFound : (JsonValue.object (messageMembers reasoningContent content)).find
      (bytes "content") = some (.string content) := rfl
  have reasoningFound : (JsonValue.object (messageMembers reasoningContent content)).find
      (bytes "reasoning_content") =
        if reasoningContent = [] then none else some (.string reasoningContent) := by
    unfold messageMembers
    split <;> rfl
  exact ⟨_, chatCompletion_eq envelope reasoningContent content stop usage timings,
    answerDocument envelope reasoningContent content stop usage timings, _, document,
    fun inRange => Json.parse_iff.mpr ⟨_, document,
      answerDocument_acceptable envelope reasoningContent content stop usage inRange, rfl⟩,
    answerDocument_choice envelope reasoningContent content stop usage timings,
    contentFound, reasoningFound⟩

end Completion

/-! ## What clients read -/

/--
The frame of a delta is one event that decodes to its text, an answer with finite
measurements is a document with the strings it was given, without empty reasoning, and
well-nested calls write the compact text of their tree, which is JSON if the numbers are
finite and the raw text is JSON.
-/
theorem responses_decode :
    (∀ envelope channel text, ∃ frame,
      chatCompletionChunkDelta envelope channel text = some frame ∧
        DecodesDelta channel text frame) ∧
    (∀ envelope reasoningContent content stop usage (timings : Timings),
      timings.Finite → ∃ document,
        chatCompletion envelope reasoningContent content stop usage timings =
            some document ∧
          DecodesMessage reasoningContent content timings document) ∧
    (∀ calls tree, Nests calls tree →
      written calls = some (compact tree) ∧
        ∀ spliced, Writable spliced calls →
          Document .rfc (compact tree) (tree.json spliced)) := by
  refine ⟨chunkDelta_decodes, fun envelope reasoningContent content stop usage timings =>
    completion_decodes envelope reasoningContent content stop usage, ?_⟩
  intro calls tree nests
  rw [nests.calls_eq]
  exact ⟨written_calls tree, fun spliced writable => document_compact tree writable⟩

/-- A response to look at. -/
def sampleEnvelope : Envelope where
  id := bytes "chatcmpl-1"
  model := bytes "aeon"
  created := 0

theorem nan_document (tree : RawJson) : ¬ Document .rfc (bytes "nan") tree := by
  intro document
  have parsed := Text.PromptJson.parse_document (Text.PromptJson.document_rfc document)
  have refused : (Text.PromptJson.parse (bytes "nan")).isOk = false := by decide +kernel
  rw [parsed] at refused
  cases refused

/--
The reasoning of an answer is not always there: empty reasoning is left out.  And a writer
that is given what is not a number writes no JSON.
-/
theorem responses_decode_fails :
    (¬ ∀ reasoningContent content, ∃ document tree message,
      chatCompletion sampleEnvelope reasoningContent content .eos {} {} = some document ∧
        Document .rfc document tree ∧ choice tree.value "message" = some message ∧
        message.find (bytes "content") = some (.string content) ∧
        message.find (bytes "reasoning_content") = some (.string reasoningContent)) ∧
    ¬ ∀ calls tree, Nests calls tree →
      ∃ text json, written calls = some text ∧ Document .rfc text json := by
  constructor
  · intro always
    obtain ⟨document, tree, message, made, isDocument, chosen, -, reasoning⟩ :=
      always [] (bytes "Hi")
    obtain ⟨other, otherMade, otherTree, otherMessage, isOther, -, otherChosen, -, absent⟩ :=
      completion_decodes sampleEnvelope [] (bytes "Hi") .eos {}
        (show Timings.Finite {} from ⟨trivial, trivial⟩)
    obtain rfl := Option.some.inj (made.symm.trans otherMade)
    obtain rfl := Text.PromptJson.document_unique (Text.PromptJson.document_rfc isDocument)
      (Text.PromptJson.document_rfc isOther)
    obtain rfl := Option.some.inj (chosen.symm.trans otherChosen)
    rw [reasoning] at absent
    cases absent
  · intro always
    obtain ⟨text, json, made, document⟩ := always _ _ (.value (.number (.nan false)))
    obtain rfl : bytes "nan" = text := Option.some.inj made
    exact nan_document json document

end Aeon.Server
