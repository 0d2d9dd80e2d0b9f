import Aeon.Conversation
import Aeon.PromptContinuation

namespace Aeon.Runtime

open Aeon.Text

/-!
# Exact-token history and the rendered text

The ids kept for a reply stand in for its text in later prompts, and they are
found again by that text alone.  The rendered body depends on more: on the
thinking mode of the request, on the tool calls of the message, and on whether
the reply closed its reasoning.  The ids decode to the body exactly when none of
that differs from the turn that produced them.
-/

/-! ## Which segments carry ids -/

theorem emit_text_exact
    {text : Bytes}
    {segments : List Segment}
    {segment : Segment}
    (member : segment ∈ emit segments (.text text))
    (exactly : segment.ids ≠ []) :
    segment ∈ segments := by
  unfold emit at member
  split at member
  · next shape => cases shape
  · next shape =>
      split at member
      · exact member
      · split at member
        · next last found =>
            split at member
            · next plain =>
                rcases List.mem_append.mp member with front | new
                · exact List.mem_of_mem_dropLast front
                · obtain rfl := List.mem_singleton.mp new
                  exact absurd plain exactly
            · rcases List.mem_append.mp member with front | new
              · exact front
              · obtain rfl := List.mem_singleton.mp new
                exact absurd rfl exactly
        · rcases List.mem_append.mp member with front | new
          · exact front
          · obtain rfl := List.mem_singleton.mp new
            exact absurd rfl exactly

theorem foldl_emit_exact
    (emissions : List Emission)
    (segments : List Segment)
    (segment : Segment)
    (member : segment ∈ emissions.foldl emit segments)
    (exactly : segment.ids ≠ []) :
    segment ∈ segments ∨
      Emission.exact segment.text segment.ids ∈ emissions := by
  induction emissions generalizing segments with
  | nil =>
    exact Or.inl member
  | cons emission emissions ih =>
    rcases ih (emit segments emission) member with
      earlier | later
    · cases emission with
      | text text =>
        exact Or.inl (emit_text_exact earlier exactly)
      | exact body ids =>
        rcases List.mem_append.mp earlier with front | new
        · exact Or.inl front
        · obtain rfl := List.mem_singleton.mp new
          exact Or.inr List.mem_cons_self
    · exact Or.inr (List.mem_cons_of_mem _ later)

variable {encoder : PromptEncoder}
variable {context : RenderContext}
variable {index : Nat}
variable {emissions : List Emission}
variable {body : Bytes}
variable {ids : List Nat}
variable {messages : List PromptMessage}
variable {tokens : TemplateTokens}
variable {setup : ConversationSetup}
variable {kept : AssistantIds}
variable {request : ConversationRequest}

theorem renderBody_exact
    {message : PromptMessage}
    (rendered :
      encoder.renderBody context index false message = .ok emissions)
    (member : Emission.exact body ids ∈ emissions) :
    message.role = .assistant ∧
      message.preencodedIds = ids ∧
      body = encoder.assistantBody context index false message := by
  unfold PromptEncoder.renderBody at rendered
  cases role : message.role with
  | system =>
    simp only [role] at rendered
    obtain ⟨declarations, _, emitted⟩ := bind_eq_ok.mp rendered
    obtain rfl := Except.ok.inj emitted
    simp at member
  | developer =>
    simp only [role] at rendered
    split at rendered
    · cases rendered
    · obtain ⟨declarations, _, emitted⟩ := bind_eq_ok.mp rendered
      obtain rfl := Except.ok.inj emitted
      simp at member
  | user =>
    simp only [role] at rendered
    obtain rfl := Except.ok.inj rendered
    simp at member
  | latestReminder =>
    simp only [role] at rendered
    obtain rfl := Except.ok.inj rendered
    simp at member
  | tool =>
    simp only [role] at rendered
    cases rendered
  | assistant =>
    simp only [role] at rendered
    split at rendered
    · obtain rfl := Except.ok.inj rendered
      simp at member
    · obtain rfl := Except.ok.inj rendered
      simp only [List.mem_cons, Emission.exact.injEq, reduceCtorEq,
        List.not_mem_nil, or_false] at member
      exact ⟨rfl, member.2.symm, member.1⟩

theorem renderMessage_exact
    {message : PromptMessage}
    {next : Option PromptMessage}
    (rendered :
      encoder.renderMessage context index false message next = .ok emissions)
    (member : Emission.exact body ids ∈ emissions) :
    message.role = .assistant ∧
      message.preencodedIds = ids ∧
      body = encoder.assistantBody context index false message := by
  obtain ⟨bodyEmissions, bodyRendered, afterBody⟩ := bind_eq_ok.mp rendered
  obtain ⟨transition, transitioned, joined⟩ := bind_eq_ok.mp afterBody
  obtain rfl := Except.ok.inj joined
  have notInTransition : Emission.exact body ids ∉ transition := by
    intro inTransition
    unfold PromptEncoder.transitionBefore at transitioned
    split at transitioned
    · obtain ⟨texts, rfl⟩ :=
        PromptEncoder.renderTransition_texts transitioned
      simp at inTransition
    · obtain rfl := Except.ok.inj transitioned
      cases inTransition
  have inBody : Emission.exact body ids ∈ bodyEmissions := by
    rcases List.mem_append.mp member with inBody | inTransition
    · exact inBody
    · exact absurd inTransition notInTransition
  exact renderBody_exact bodyRendered inBody

theorem renderFrom_exact
    (untasked : ∀ message ∈ messages, message.task = [])
    (rendered :
      encoder.renderFrom context index false messages = .ok emissions)
    (member : Emission.exact body ids ∈ emissions) :
    ∃ message ∈ messages, ∃ place,
      message.role = .assistant ∧
        message.preencodedIds = ids ∧
        body = encoder.assistantBody context place false message := by
  induction messages generalizing index emissions with
  | nil =>
    obtain rfl := Except.ok.inj rendered
    cases member
  | cons message rest ih =>
    obtain ⟨emitted, emittedHere, afterEmitted⟩ := bind_eq_ok.mp rendered
    obtain ⟨others, renderedRest, joined⟩ := bind_eq_ok.mp afterEmitted
    obtain rfl := Except.ok.inj joined
    rcases List.mem_append.mp member with here | there
    · exact ⟨message, List.mem_cons_self, index,
        renderMessage_exact emittedHere here⟩
    · have noTask : decide (message.task ≠ []) = false := by
        simp [untasked message List.mem_cons_self]
      rw [noTask] at renderedRest
      obtain ⟨found, listed, place, shape⟩ := ih
        (fun other later => untasked other (List.mem_cons_of_mem _ later))
        renderedRest there
      exact ⟨found, List.mem_cons_of_mem _ listed, place, shape⟩

/-! ## Which messages are rendered -/

/-- What merging and ordering keep of `messages`. -/
def Descends
    (messages : List PromptMessage)
    (message : PromptMessage) : Prop :=
  (message.role = .assistant → message ∈ messages) ∧ message.task = []

theorem mergeMessage_descends
    {messages merged : List PromptMessage}
    {original : PromptMessage}
    (listed : original ∈ messages)
    (untasked : original.task = [])
    (descends : ∀ message ∈ merged, Descends messages message) :
    ∀ message ∈ mergeMessage merged original,
      Descends messages message := by
  have extended (last : PromptMessage) (block : ContentBlock)
      (found : merged.getLast? = some last) (asked : last.role = .user) :
      ∀ message ∈ merged.dropLast ++
          [{ last with contentBlocks := last.contentBlocks ++ [block] }],
        Descends messages message := by
    intro message member
    rcases List.mem_append.mp member with front | new
    · exact descends message (List.mem_of_mem_dropLast front)
    · obtain rfl := List.mem_singleton.mp new
      have lastDescends := descends last (List.mem_of_getLast? found)
      exact ⟨by simp [asked], lastDescends.2⟩
  have appended (added : PromptMessage) (ok : Descends messages added) :
      ∀ message ∈ merged ++ [added], Descends messages message := by
    intro message member
    rcases List.mem_append.mp member with front | new
    · exact descends message front
    · obtain rfl := List.mem_singleton.mp new
      exact ok
  unfold mergeMessage
  cases role : original.role with
  | tool =>
    simp only
    cases found : merged.getLast? with
    | none => exact appended _ ⟨by simp, rfl⟩
    | some last =>
      simp only
      split
      · next mergeable => exact extended last _ found mergeable.1
      · exact appended _ ⟨by simp, rfl⟩
  | user =>
    simp only
    cases found : merged.getLast? with
    | none => exact appended _ ⟨by simp, untasked⟩
    | some last =>
      simp only
      split
      · next mergeable => exact extended last _ found mergeable.1
      · exact appended _ ⟨by simp, untasked⟩
  | system => exact appended _ ⟨fun _ => listed, untasked⟩
  | developer => exact appended _ ⟨fun _ => listed, untasked⟩
  | assistant => exact appended _ ⟨fun _ => listed, untasked⟩
  | latestReminder => exact appended _ ⟨fun _ => listed, untasked⟩

theorem mergeToolMessages_descends
    (untasked : ∀ message ∈ messages, message.task = []) :
    ∀ message ∈ mergeToolMessages messages, Descends messages message := by
  have folded (input merged : List PromptMessage)
      (included : ∀ message ∈ input, message ∈ messages)
      (descends : ∀ message ∈ merged, Descends messages message) :
      ∀ message ∈ input.foldl mergeMessage merged,
        Descends messages message := by
    induction input generalizing merged with
    | nil =>
      exact descends
    | cons original input ih =>
      have listed := included original List.mem_cons_self
      exact ih _
        (fun message later =>
          included message (List.mem_cons_of_mem _ later))
        (mergeMessage_descends listed (untasked original listed) descends)
  exact folded messages [] (fun _ member => member) (by simp)

theorem sortToolResults_descends
    {messages ordered : List PromptMessage}
    (order : List (Bytes × Nat))
    (descends : ∀ message ∈ ordered, Descends messages message) :
    ∀ message ∈ sortToolResults order ordered,
      Descends messages message := by
  induction ordered generalizing order with
  | nil =>
    simp [sortToolResults]
  | cons head rest ih =>
    have headDescends := descends head List.mem_cons_self
    have restDescends (order : List (Bytes × Nat)) :=
      ih order fun message later =>
        descends message (List.mem_cons_of_mem _ later)
    intro message member
    rw [sortToolResults] at member
    split at member
    · rcases List.mem_cons.mp member with rfl | later
      · exact headDescends
      · exact restDescends _ message later
    · split at member
      · rcases List.mem_cons.mp member with rfl | later
        · exact headDescends
        · exact restDescends _ message later
      · next sorted =>
          rcases List.mem_cons.mp member with rfl | later
          · have asked : head.role = .user := by
              by_contra other
              exact sorted (Or.inl other)
            exact ⟨by simp [asked], headDescends.2⟩
          · exact restDescends _ message later

/-! ## Prompts and texts -/

theorem decode_segments
    {segments : List Segment}
    {prompt : List Nat}
    (inverts : encoder.tokenizer.RoundTrip)
    (faithful :
      ∀ segment ∈ segments,
        segment.ids ≠ [] →
        encoder.tokenizer.decode false segment.ids = .ok segment.text)
    (tokenized : encoder.segmentsTokens segments = .ok prompt) :
    encoder.tokenizer.decode false prompt =
      .ok (segments.flatMap (·.text)) := by
  induction segments generalizing prompt with
  | nil =>
    obtain rfl := Except.ok.inj tokenized
    rfl
  | cons segment rest ih =>
    obtain ⟨ids, here, afterHere⟩ := bind_eq_ok.mp tokenized
    obtain ⟨others, there, joined⟩ := bind_eq_ok.mp afterHere
    obtain rfl := Except.ok.inj joined
    have decodedHere :
        encoder.tokenizer.decode false ids = .ok segment.text := by
      unfold PromptEncoder.segmentTokens at here
      split at here
      · exact inverts _ _ here
      · next exactly =>
          obtain rfl := Except.ok.inj here
          exact faithful segment List.mem_cons_self exactly
    have decodedThere := ih
      (fun other later => faithful other (List.mem_cons_of_mem _ later))
      there
    simp [Tokenizer.decode_append, decodedHere, decodedThere]

/--
A prompt that keeps its thinking decodes to its text when the ids of every
assistant message decode to its body.
-/
theorem decode_encodeTokens
    {options : PromptOptions}
    {prompt : List Nat}
    (inverts : encoder.tokenizer.RoundTrip)
    (resolved : resolveTokens encoder.tokenizer = .ok tokens)
    (kept : options.dropThinking = false)
    (untasked : ∀ message ∈ messages, message.task = [])
    (faithful :
      ∀ message ∈ messages,
        message.role = .assistant →
        message.preencodedIds ≠ [] →
        encoder.tokenizer.decode false message.preencodedIds =
          .ok ((if options.thinkingMode = .thinking then
              message.reasoningContent ++ tokens.thinkingEnd
            else []) ++ message.content ++
              encoder.renderToolCalls tokens message.toolCalls))
    (tokenized : encoder.encodeTokens messages options = .ok prompt) :
    ∃ text,
      encoder.encode messages options = .ok text ∧
        encoder.tokenizer.decode false prompt = .ok text := by
  obtain ⟨segments, segmented, segmentTokens⟩ := bind_eq_ok.mp tokenized
  refine ⟨segments.flatMap (·.text), ?_, ?_⟩
  · rw [PromptEncoder.encode, segmented, ok_bind]
  · apply decode_segments inverts _ segmentTokens
    intro segment member exactly
    have keeps :
        (PromptEncoder.keptContext tokens options).dropThinking = false :=
      rfl
    simp only [PromptEncoder.renderSegments, resolved, ok_bind,
      PromptEncoder.renderInputs_kept _ _ _ kept] at segmented
    split at segmented
    · cases segmented
    · obtain ⟨emissions, rendered, folded⟩ := bind_eq_ok.mp segmented
      obtain rfl := Except.ok.inj folded
      rw [PromptEncoder.renderFrom_lastUserIndex keeps] at rendered
      have emitted :
          Emission.exact segment.text segment.ids ∈ emissions := by
        rcases foldl_emit_exact _ _ segment member exactly with
          nowhere | somewhere
        · cases nowhere
        · rcases List.mem_append.mp somewhere with inStart | inBody
          · split at inStart
            · simp at inStart
            · cases inStart
          · exact inBody
      have descends :=
        sortToolResults_descends [] (mergeToolMessages_descends untasked)
      obtain ⟨message, listed, place, role, idsEq, bodyEq⟩ :=
        renderFrom_exact
          (fun message listed => (descends message listed).2)
          rendered emitted
      have sent := (descends message listed).1 role
      rw [← idsEq] at exactly ⊢
      rw [faithful message sent role exactly, bodyEq]
      simp [PromptEncoder.assistantBody, RenderContext.thinkingPart,
        PromptEncoder.keptContext]

/-! ## The kept replies -/

theorem assistantSignature_inj
    {reasoning otherReasoning content otherContent : Bytes}
    (plain : 0x1f ∉ reasoning)
    (otherPlain : 0x1f ∉ otherReasoning)
    (same :
      assistantSignature reasoning content =
        assistantSignature otherReasoning otherContent) :
    reasoning = otherReasoning ∧ content = otherContent := by
  induction reasoning generalizing otherReasoning with
  | nil =>
    cases otherReasoning with
    | nil =>
      exact ⟨rfl, (List.cons.inj same).2⟩
    | cons byte rest =>
      have first : 0x1f = byte := (List.cons.inj same).1
      subst first
      exact absurd List.mem_cons_self otherPlain
  | cons byte rest ih =>
    cases otherReasoning with
    | nil =>
      have first : byte = 0x1f := (List.cons.inj same).1
      subst first
      exact absurd List.mem_cons_self plain
    | cons otherByte otherRest =>
      obtain ⟨rfl, sameRest⟩ := List.cons.inj same
      obtain ⟨rfl, sameContent⟩ := ih
        (List.not_mem_of_not_mem_cons plain)
        (List.not_mem_of_not_mem_cons otherPlain) sameRest
      exact ⟨rfl, sameContent⟩

theorem generate_eos_last
    {setup : EngineSetup}
    {engine after : Engine}
    {call : GenerateCall}
    {reply : Reply}
    (stops : call.generation.stopOnEos = true)
    (returned : generate setup engine call = (.ok reply, after)) :
    setup.eosTokenId ∉ reply.tokenIds.dropLast := by
  unfold generate at returned
  split at returned
  · cases returned
  split at returned
  · cases returned
  simp only at returned
  split at returned
  · split at returned
    · obtain rfl := Except.ok.inj (Prod.mk.inj returned).1
      simp
    · cases returned
    · next generated final outcome =>
        have ended :
            Ends (fun result (_ : Engine) =>
                setup.eosTokenId ∉ result.tokenIds.dropLast)
              (fun _ _ => True) (.ok generated, final) := by
          rw [← outcome]
          exact generateTokenIds_eos_last stops
        obtain rfl := Except.ok.inj (Prod.mk.inj returned).1
        exact ended
  · cases returned

theorem turnCall_stopOnEos
    {surroundings : TurnSurroundings}
    {call : GenerateCall}
    (called : turnCall setup kept request surroundings = .ok call) :
    call.generation.stopOnEos = true := by
  obtain ⟨_, _, afterCheck⟩ := bind_eq_ok.mp called
  obtain ⟨options, _, afterOptions⟩ := bind_eq_ok.mp afterCheck
  obtain ⟨messages, _, afterMessages⟩ := bind_eq_ok.mp afterOptions
  split at afterMessages
  · cases afterMessages
  · split at afterMessages
    · cases afterMessages
    · obtain rfl := Except.ok.inj afterMessages
      rfl

/--
A reply that its text describes: in thinking mode it closes its reasoning once, in
chat mode it holds no marker, and both texts are valid and free of the separator
that the signature puts between them.
-/
def SoundReply
    (tokenizer : Tokenizer)
    (thinking : Bool)
    (ids : List Nat) : Prop :=
  ∃ reasoning content,
    StreamDecoder.BodySplit tokenizer thinking ids reasoning content ∧
      Utf8Chunker.ValidUtf8 reasoning ∧
      Utf8Chunker.ValidUtf8 content ∧
      0x1f ∉ reasoning

/--
The assistant messages of a request that find kept ids carry nothing their
signature leaves out, and are sent in the mode that produced the ids.
-/
def RequestSound
    (tokenizer : Tokenizer)
    (kept : AssistantIds)
    (request : ConversationRequest) : Prop :=
  ∀ message ∈ request.messages,
    message.role = .assistant →
    ∀ ids,
      kept.lookupIds
          (assistantSignature message.reasoningContent message.content) =
        some ids →
      message.toolCalls = [] ∧
        0x1f ∉ message.reasoningContent ∧
        (request.thinking = true ↔ tokenizer.thinkingEndTokenId ∈ ids)

/-- A turn whose reply is empty or described by its text. -/
def ReplySound
    (setup : ConversationSetup)
    (conversation : Conversation) :
    ConversationAction → Prop
  | .run request surroundings =>
    ∀ call reply after,
      turnCall setup conversation.assistantIds request surroundings =
        .ok call →
      generate setup.engine conversation.engine call = (.ok reply, after) →
      withoutEos setup.encoder.tokenizer.eosTokenId reply.tokenIds ≠ [] →
      SoundReply setup.encoder.tokenizer request.thinking
        (withoutEos setup.encoder.tokenizer.eosTokenId reply.tokenIds)
  | .reset => True

/-- A kept entry whose ids decode to the body its signature names. -/
def EntrySound
    (tokenizer : Tokenizer)
    (tokens : TemplateTokens)
    (entry : Bytes × List Nat) : Prop :=
  ∃ reasoning content,
    entry.1 = assistantSignature reasoning content ∧
      0x1f ∉ reasoning ∧
      tokenizer.decode false entry.2 =
        .ok ((if tokenizer.thinkingEndTokenId ∈ entry.2 then
            reasoning ++ tokens.thinkingEnd
          else []) ++ content)

theorem decode_bodySplit
    {tokenizer : Tokenizer}
    {thinking : Bool}
    {reasoning content closing : Bytes}
    (closes :
      tokenizer.decodeToken false tokenizer.thinkingEndTokenId = .ok closing)
    (split :
      StreamDecoder.BodySplit tokenizer thinking ids reasoning content) :
    tokenizer.decode false ids =
      .ok ((if tokenizer.thinkingEndTokenId ∈ ids then reasoning ++ closing
        else []) ++ content) := by
  unfold StreamDecoder.BodySplit at split
  split at split
  · obtain ⟨before, after, rfl, _, _, reasoned, answered⟩ := split
    have marked :
        tokenizer.thinkingEndTokenId ∈
          before ++ tokenizer.thinkingEndTokenId :: after := by
      simp
    rw [if_pos marked, Tokenizer.decode_append, reasoned, ok_bind]
    simp [Tokenizer.decode, closes, answered]
  · obtain ⟨unmarked, _, answered⟩ := split
    rw [if_neg unmarked, answered, List.nil_append]

theorem keepReply_sound
    {tokenizer : Tokenizer}
    {thinking : Bool}
    {deltas : List TextDelta}
    {decoder : StreamDecoder}
    (closes :
      tokenizer.decodeToken false tokenizer.thinkingEndTokenId =
        .ok tokens.thinkingEnd)
    (keptSound : ∀ entry ∈ kept, EntrySound tokenizer tokens entry)
    (endsOnce : tokenizer.eosTokenId ∉ ids.dropLast)
    (reply :
      withoutEos tokenizer.eosTokenId ids ≠ [] →
      SoundReply tokenizer thinking (withoutEos tokenizer.eosTokenId ids))
    (pushed :
      StreamDecoder.pushAll tokenizer (.start thinking) ids =
        .ok (deltas, decoder)) :
    ∀ entry ∈ keepReply tokenizer kept ids (deltas ++ decoder.finish),
      EntrySound tokenizer tokens entry := by
  intro entry member
  unfold keepReply at member
  simp only at member
  split at member
  · exact keptSound entry member
  · next nonempty =>
      obtain ⟨reasoning, content, split, reasoningValid, contentValid,
        plain⟩ := reply nonempty
      have unended := eos_not_mem_withoutEos endsOnce
      have pushedBody :
          StreamDecoder.pushAll tokenizer (.start thinking)
              (withoutEos tokenizer.eosTokenId ids) =
            .ok (deltas, decoder) := by
        rcases withoutEos_cases tokenizer.eosTokenId ids with same | ended
        · rw [← same]
          exact pushed
        · rw [ended, StreamDecoder.pushAll_eos] at pushed
          exact pushed
      obtain ⟨bodyDeltas, bodyDecoder, pushedAgain, nothingHeld,
        onReasoning, onContent⟩ :=
        StreamDecoder.pushAll_split unended split reasoningValid contentValid
      obtain ⟨rfl, rfl⟩ :=
        Prod.mk.inj (Except.ok.inj (pushedBody.symm.trans pushedAgain))
      rcases List.mem_cons.mp member with rfl | earlier
      · refine ⟨reasoning, content, ?_, plain, decode_bodySplit closes split⟩
        rw [nothingHeld, List.append_nil, onReasoning, onContent]
      · exact keptSound entry earlier

theorem step_entrySound
    {source target : Conversation}
    {action : ConversationAction}
    (closes :
      setup.encoder.tokenizer.decodeToken false
          setup.encoder.tokenizer.thinkingEndTokenId =
        .ok tokens.thinkingEnd)
    (sound :
      ∀ entry ∈ source.assistantIds,
        EntrySound setup.encoder.tokenizer tokens entry)
    (taken :
      Guarded (ConversationStep setup) (ReplySound setup) source action
        target) :
    ∀ entry ∈ target.assistantIds,
      EntrySound setup.encoder.tokenizer tokens entry := by
  obtain ⟨replySound, stepped⟩ := taken
  cases action with
  | reset =>
    obtain rfl := stepped
    exact sound
  | run request surroundings =>
    obtain rfl := stepped
    unfold Conversation.run
    simp only
    split
    · exact sound
    · next call called =>
        split
        · exact sound
        · next reply after returned =>
            have described := replySound call reply after called returned
            have endsOnce :=
              generate_eos_last (turnCall_stopOnEos called) returned
            split
            · exact sound
            · next deltas decoder pushed =>
                split
                · exact sound
                · exact keepReply_sound closes sound endsOnce described
                    pushed

/-! ## Every turn -/

/-- The prompt of a request decodes to the text its messages render to. -/
def RendersSame
    (setup : ConversationSetup)
    (conversation : Conversation)
    (request : ConversationRequest) : Prop :=
  ∀ options messages prompt,
    promptOptions request = .ok options →
    mapMessages setup.encoder conversation.assistantIds request =
      .ok messages →
    setup.encoder.encodeTokens messages options = .ok prompt →
    ∃ text,
      setup.encoder.encode messages options = .ok text ∧
        setup.encoder.tokenizer.decode false prompt = .ok text

theorem promptOptions_mode
    {options : PromptOptions}
    (chosen : promptOptions request = .ok options) :
    options.dropThinking = false ∧
      (options.thinkingMode = .thinking ↔ request.thinking = true) := by
  unfold promptOptions at chosen
  simp only at chosen
  split at chosen
  · obtain rfl := Except.ok.inj chosen
    exact ⟨rfl, by split <;> simp_all⟩
  · split at chosen
    · cases chosen
    · obtain rfl := Except.ok.inj chosen
      exact ⟨rfl, by simp⟩

theorem mapMessages_kept
    {mapped : PromptMessage}
    (built : mapMessages encoder kept request = .ok messages)
    (member : mapped ∈ messages) :
    mapped.task = [] ∧
      (mapped.role = .assistant →
        ∃ message ∈ request.messages,
          message.role = .assistant ∧ mapped = mapMessage kept message) := by
  obtain ⟨leading, led, joined⟩ := bind_eq_ok.mp built
  obtain rfl := Except.ok.inj joined
  rcases List.mem_append.mp member with inLeading | inRequest
  · have configured : mapped.task = [] ∧ mapped.role = .system := by
      unfold leadingMessages at led
      split at led
      · obtain ⟨tools, _, made⟩ := bind_eq_ok.mp led
        obtain rfl := Except.ok.inj made
        obtain rfl := List.mem_singleton.mp inLeading
        exact ⟨rfl, rfl⟩
      · split at led
        · obtain rfl := Except.ok.inj led
          obtain rfl := List.mem_singleton.mp inLeading
          exact ⟨rfl, rfl⟩
        · obtain rfl := Except.ok.inj led
          cases inLeading
    exact ⟨configured.1, by simp [configured.2]⟩
  · obtain ⟨message, listed, rfl⟩ := List.mem_map.mp inRequest
    refine ⟨rfl, fun role => ⟨message, listed, ?_, rfl⟩⟩
    cases shape : message.role <;> simp [mapMessage, toDsv4Role, shape] at role
    rfl

theorem rendersSame_of_sound
    {conversation : Conversation}
    (inverts : setup.encoder.tokenizer.RoundTrip)
    (resolved : resolveTokens setup.encoder.tokenizer = .ok tokens)
    (entries :
      ∀ entry ∈ conversation.assistantIds,
        EntrySound setup.encoder.tokenizer tokens entry)
    (sound :
      RequestSound setup.encoder.tokenizer conversation.assistantIds
        request) :
    RendersSame setup conversation request := by
  intro options messages prompt chosen built tokenized
  obtain ⟨keepsThinking, mode⟩ := promptOptions_mode chosen
  refine decode_encodeTokens inverts resolved keepsThinking
    (fun mapped listed => (mapMessages_kept built listed).1) ?_ tokenized
  intro mapped listed role exactly
  obtain ⟨message, sent, assistant, rfl⟩ :=
    (mapMessages_kept built listed).2 role
  simp only [mapMessage, if_pos assistant] at exactly ⊢
  cases found : conversation.assistantIds.lookupIds
      (assistantSignature message.reasoningContent message.content) with
  | none =>
    rw [found] at exactly
    exact absurd rfl exactly
  | some ids =>
    obtain ⟨noCalls, plain, sameMode⟩ :=
      sound message sent assistant ids found
    obtain ⟨entry, first, rfl⟩ := Option.map_eq_some_iff.mp found
    obtain ⟨reasoning, content, signed, otherPlain, decoded⟩ :=
      entries entry (List.mem_of_find?_eq_some first)
    have same :
        assistantSignature reasoning content =
          assistantSignature message.reasoningContent message.content := by
      rw [← signed]
      simpa using List.find?_some first
    obtain ⟨rfl, rfl⟩ := assistantSignature_inj otherPlain plain same
    simp only [Option.getD_some, decoded, noCalls, List.map_nil, mode,
      sameMode, PromptEncoder.renderToolCalls, if_true, List.append_nil]

/--
In every run whose replies are described by their text, a request whose assistant
messages match the turns that produced their ids renders the same prompt as its
text.
-/
theorem run_rendersSame
    {setup : ConversationSetup}
    {tokens : TemplateTokens}
    {first last : Conversation}
    {actions : List ConversationAction}
    (inverts : setup.encoder.tokenizer.RoundTrip)
    (resolved : resolveTokens setup.encoder.tokenizer = .ok tokens)
    (closes :
      setup.encoder.tokenizer.decodeToken false
          setup.encoder.tokenizer.thinkingEndTokenId =
        .ok tokens.thinkingEnd)
    (fresh : first.assistantIds = [])
    (run :
      Run (Guarded (ConversationStep setup) (ReplySound setup))
        first actions last)
    (request : ConversationRequest)
    (sound :
      RequestSound setup.encoder.tokenizer last.assistantIds request) :
    RendersSame setup last request := by
  have entries :
      ∀ entry ∈ last.assistantIds,
        EntrySound setup.encoder.tokenizer tokens entry := by
    apply run.invariant fun conversation =>
      ∀ entry ∈ conversation.assistantIds,
        EntrySound setup.encoder.tokenizer tokens entry
    · intro source action target kept taken
      exact step_entrySound closes kept taken
    · simp [fresh]
  exact rendersSame_of_sound inverts resolved entries sound

theorem smallTokenizer_roundTrip :
    smallTokenizer.RoundTrip := by
  have letterOf :
      ∀ byte < 256,
        (Tokenizer.encodeCodePoint (Tokenizer.byteCodePoint byte) =
            bytes "a" →
          byte = 97) ∧
          (Tokenizer.encodeCodePoint (Tokenizer.byteCodePoint byte) =
              bytes "b" →
            byte = 98) := by
    decide +kernel
  have unmerged (symbols : List Bytes) :
      smallTokenizer.bestMerge symbols = none := by
    induction symbols with
    | nil => rfl
    | cons left rest ih =>
      cases rest with
      | nil => rfl
      | cons right rest =>
        rw [Tokenizer.bestMerge, ih]
        rfl
  have symbolsReturn (piece : Bytes) (ids : List Nat)
      (named :
        smallTokenizer.symbolIds (piece.map Tokenizer.byteToSymbol) =
          .ok ids) :
      smallTokenizer.decode false ids = .ok piece := by
    induction piece generalizing ids with
    | nil =>
      obtain rfl := Except.ok.inj named
      rfl
    | cons byte piece ih =>
      have letter := letterOf byte.toNat byte.toNat_lt
      rw [List.map_cons, Tokenizer.symbolIds] at named
      split at named
      · cases named
      · next id found =>
          obtain ⟨others, namedRest, joined⟩ := bind_eq_ok.mp named
          obtain rfl := Except.ok.inj joined
          have decodedHere :
              smallTokenizer.decodeToken false id = .ok [byte] := by
            change (if Tokenizer.byteToSymbol byte = bytes "a" then some 8
              else if Tokenizer.byteToSymbol byte = bytes "b" then some 9
              else none) = some id at found
            split at found
            · next isA =>
                obtain rfl := Option.some.inj found
                obtain rfl : byte = 97 :=
                  UInt8.toNat_inj.mp (letter.1 isA)
                decide
            · split at found
              · next isB =>
                  obtain rfl := Option.some.inj found
                  obtain rfl : byte = 98 :=
                    UInt8.toNat_inj.mp (letter.2 isB)
                  decide
              · cases found
          rw [Tokenizer.decode, decodedHere, ok_bind,
            ih others namedRest]
          rfl
  apply Tokenizer.roundTrip_of_pieces
  · decide
  · intro piece ids named
    apply symbolsReturn piece ids
    cases rounds : piece.length with
    | zero =>
      rw [rounds] at named
      exact named
    | succ rest =>
      rw [rounds, Tokenizer.mergeSymbols, unmerged] at named
      exact named

/-- A conversation over the small encoder. -/
def smallConversation : ConversationSetup :=
  { encoder := smallEncoder
    contextCapacity := 64
    prefillWindowTokens := 8 }

/-- Surroundings in which the model answers `b` and an EOS. -/
def answeredB : TurnSurroundings :=
  { call :=
      { prompt := []
        firstToken := some 9
        nextToken := fun _ => some 1 } }

/-- A first question in chat mode. -/
def firstQuestion : ConversationRequest :=
  { messages := [{ content := bytes "a" }] }

/-- The next question, with the answer re-sent beside these tool calls. -/
def nextQuestion (toolCalls : List ToolCall) : ConversationRequest :=
  { messages :=
      [{ content := bytes "a" },
        { role := .assistant, content := bytes "b", toolCalls := toolCalls },
        { content := bytes "a" }] }

/-- One call of a tool `f` without arguments. -/
def resentCalls : List ToolCall :=
  [{ name := bytes "f", argumentsJson := bytes "\x7b\x7d" }]

/-- The conversation after the first question. -/
def afterFirstQuestion : Conversation :=
  (Conversation.run smallConversation {} firstQuestion answeredB).2

/-- The ids a turn samples. -/
def turnIds
    (setup : ConversationSetup)
    (conversation : Conversation)
    (request : ConversationRequest)
    (surroundings : TurnSurroundings) : Option (List Nat) :=
  match turnCall setup conversation.assistantIds request surroundings with
  | .error _ => none
  | .ok call =>
    match generate setup.engine conversation.engine call with
    | (.error _, _) => none
    | (.ok reply, _) => some reply.tokenIds

/-- An answer re-sent as it came renders as its text. -/
theorem resent_answer_rendersSame :
    RendersSame smallConversation afterFirstQuestion (nextQuestion []) := by
  have keptIds :
      afterFirstQuestion.assistantIds =
        [(assistantSignature [] (bytes "b"), [9])] := by
    decide
  have sampled :
      turnIds smallConversation {} firstQuestion answeredB = some [9, 1] := by
    decide
  have described :
      ReplySound smallConversation {} (.run firstQuestion answeredB) := by
    intro call reply after called returned _
    have ids : reply.tokenIds = [9, 1] := by
      simpa [turnIds, called, returned] using sampled
    refine ⟨[], bytes "b", ?_, .nil, ?_, by simp⟩
    · rw [ids]
      exact ⟨by decide, rfl, by decide⟩
    · have wellFormed : Utf8Chunker.WellFormed [98] := by
        simp [Utf8Chunker.WellFormed]
      exact .cons wellFormed .nil
  refine run_rendersSame smallTokenizer_roundTrip
    (show resolveTokens smallEncoder.tokenizer = .ok smallTokens by
      decide)
    (by decide) rfl
    (Run.single (show Guarded (ConversationStep smallConversation)
      (ReplySound smallConversation) {} _ afterFirstQuestion from
        ⟨described, rfl⟩))
    (nextQuestion []) ?_
  intro message member role ids found
  rw [keptIds] at found
  simp only [nextQuestion, List.mem_cons, List.not_mem_nil,
    or_false] at member
  rcases member with rfl | rfl | rfl
  · cases role
  · obtain rfl : [9] = ids := Option.some.inj found
    exact ⟨rfl, by simp, by decide⟩
  · cases role

/-- The same answer re-sent with a tool call: the ids drop the call. -/
theorem resent_tool_call_dropped :
    smallConversation.encoder.tokenizer.RoundTrip ∧
      Run (ConversationStep smallConversation) {}
        [.run firstQuestion answeredB] afterFirstQuestion ∧
      ¬ RendersSame smallConversation afterFirstQuestion
        (nextQuestion resentCalls) := by
  refine ⟨smallTokenizer_roundTrip, Run.single rfl, ?_⟩
  intro same
  obtain ⟨text, rendered, decoded⟩ :=
    same { dropThinking := false } _ [0, 4, 8, 5, 3, 9, 1, 4, 8, 5, 3]
      rfl rfl (by decide)
  have differs :
      smallTokenizer.decode false [0, 4, 8, 5, 3, 9, 1, 4, 8, 5, 3] ≠
        smallEncoder.encode
          ((nextQuestion resentCalls).messages.map
            (mapMessage afterFirstQuestion.assistantIds))
          { dropThinking := false } := by
    decide
  exact differs (decoded.trans rendered.symm)

end Aeon.Runtime
