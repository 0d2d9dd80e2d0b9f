import Aeon.PromptEncoder
import Aeon.SessionReuse

namespace Aeon.Text

/-!
# A continued conversation is reused

The reply to a prompt is appended as an assistant message with exact ids, and a
user message after it.  Nothing before the reply may be rendered differently: the
merge of tool messages, the order of tool results, the look-ahead of the
transitions and the tokenization of the text before the reply all have to come
out as they did for the first prompt.
-/

/-! ## Messages -/

variable (messages : List PromptMessage)

theorem mergeToolMessages_question
    (question : PromptMessage)
    (asked : question.role = .user)
    (untasked : question.task = []) :
    ∃ front last,
      mergeToolMessages (messages ++ [question]) = front ++ [last] ∧
        last.role = .user ∧
        last.task = [] := by
  rw [mergeToolMessages, List.foldl_append]
  simp only [List.foldl_cons, List.foldl_nil]
  generalize List.foldl mergeMessage [] messages = merged
  simp only [mergeMessage, asked]
  split
  · next last _ =>
      split
      · next mergeable =>
          exact ⟨_, _, rfl, mergeable.1, mergeable.2.2⟩
      · exact ⟨_, _, rfl, rfl, untasked⟩
  · exact ⟨_, _, rfl, rfl, untasked⟩

/-- The user message a question alone becomes. -/
def mergedQuestion (question : PromptMessage) : PromptMessage :=
  { question with contentBlocks := [.text question.content] }

theorem mergeToolMessages_reply
    (reply question : PromptMessage)
    (replied : reply.role = .assistant)
    (asked : question.role = .user) :
    mergeToolMessages (messages ++ [reply, question]) =
      mergeToolMessages messages ++ [reply, mergedQuestion question] := by
  simp [mergeToolMessages, mergeMessage, replied, asked, mergedQuestion]

theorem sortToolResults_append
    (order : List (Bytes × Nat))
    (front : List PromptMessage) :
    ∃ later, ∀ back,
      sortToolResults order (front ++ back) =
        sortToolResults order front ++ sortToolResults later back := by
  induction front generalizing order with
  | nil =>
    exact ⟨order, fun back => rfl⟩
  | cons message front ih =>
    obtain ⟨afterCalls, calls⟩ :=
      ih (callOrder message.toolCalls)
    obtain ⟨afterOther, others⟩ := ih order
    by_cases called :
        message.role = .assistant ∧ message.toolCalls ≠ []
    · refine ⟨afterCalls, fun back => ?_⟩
      simp only [List.cons_append, sortToolResults, if_pos called,
        calls back]
    · refine ⟨afterOther, fun back => ?_⟩
      simp only [List.cons_append, sortToolResults, if_neg called,
        others back]
      split <;> rfl

theorem sortToolResults_question
    (order : List (Bytes × Nat))
    (message : PromptMessage)
    (asked : message.role = .user) :
    ∃ blocks,
      sortToolResults order [message] =
        [{ message with contentBlocks := blocks }] := by
  have uncalled :
      ¬ (message.role = .assistant ∧ message.toolCalls ≠ []) := by
    simp [asked]
  simp only [sortToolResults, if_neg uncalled]
  split
  · exact ⟨message.contentBlocks, rfl⟩
  · exact ⟨_, rfl⟩

theorem sortToolResults_reply
    (order : List (Bytes × Nat))
    (reply question : PromptMessage)
    (replied : reply.role = .assistant)
    (asked : question.role = .user) :
    sortToolResults order [reply, mergedQuestion question] =
      [reply, mergedQuestion question] := by
  have unordered (order : List (Bytes × Nat)) :
      sortToolResults order [mergedQuestion question] =
        [mergedQuestion question] := by
    simp [sortToolResults, mergedQuestion, asked, sortBlocks, isToolResult]
  rw [sortToolResults]
  split
  · rw [unordered]
  · next uncalled =>
      have ordinary : reply.role ≠ .user ∨ reply.contentBlocks = [] := by
        simp [replied]
      rw [if_pos ordinary, unordered]

theorem ordered_reply
    (first reply question : PromptMessage)
    (asked : first.role = .user)
    (untasked : first.task = [])
    (replied : reply.role = .assistant)
    (askedAgain : question.role = .user) :
    ∃ front last,
      last.role = .user ∧
        last.task = [] ∧
        sortToolResults [] (mergeToolMessages (messages ++ [first])) =
          front ++ [last] ∧
        sortToolResults []
            (mergeToolMessages (messages ++ [first] ++ [reply, question])) =
          front ++ [last] ++ [reply, mergedQuestion question] := by
  obtain ⟨front, last, merged, lastAsked, lastUntasked⟩ :=
    mergeToolMessages_question messages first asked untasked
  obtain ⟨later, sorted⟩ := sortToolResults_append [] front
  obtain ⟨latest, sortedAll⟩ := sortToolResults_append [] (front ++ [last])
  obtain ⟨blocks, sortedLast⟩ :=
    sortToolResults_question later last lastAsked
  refine ⟨sortToolResults [] front, { last with contentBlocks := blocks },
    lastAsked, lastUntasked, ?_, ?_⟩
  · rw [merged, sorted, sortedLast]
  · rw [mergeToolMessages_reply _ _ _ replied askedAgain, merged, sortedAll,
      sorted, sortedLast,
      sortToolResults_reply latest reply question replied askedAgain]

/-! ## Rendering -/

/-- The text `encode` takes from an emission. -/
def Emission.rendered : Emission → Bytes
  | .text piece => piece
  | .exact body _ => body

namespace PromptEncoder

variable {encoder : PromptEncoder}
variable {context : RenderContext}

theorem renderFrom_lastUserIndex
    (kept : context.dropThinking = false)
    (elsewhere : Int)
    (index : Nat)
    (previousHasTask : Bool)
    (messages : List PromptMessage) :
    encoder.renderFrom { context with lastUserIndex := elsewhere }
        index previousHasTask messages =
      encoder.renderFrom context index previousHasTask messages := by
  induction messages generalizing index previousHasTask with
  | nil =>
    rfl
  | cons message rest ih =>
    have sameBody :
        encoder.renderBody { context with lastUserIndex := elsewhere }
            index previousHasTask message =
          encoder.renderBody context index previousHasTask message := by
      simp [renderBody, RenderContext.effortText, assistantBody,
        RenderContext.thinkingPart, kept]
    have sameTransition :
        encoder.renderTransition { context with lastUserIndex := elsewhere }
            index message =
          encoder.renderTransition context index message := by
      simp [renderTransition, kept]
    simp only [renderFrom, renderMessage, transitionBefore, sameBody,
      sameTransition, ih]

theorem renderFrom_append
    (front : List PromptMessage)
    (last reply : PromptMessage)
    (rest : List PromptMessage)
    (replied : reply.role = .assistant)
    (index : Nat)
    (previousHasTask : Bool) :
    encoder.renderFrom context index previousHasTask
        (front ++ [last] ++ reply :: rest) = (do
      let rendered ← encoder.renderFrom context index previousHasTask
        (front ++ [last])
      let others ← encoder.renderFrom context (index + front.length + 1)
        (last.task ≠ []) (reply :: rest)
      .ok (rendered ++ others)) := by
  induction front generalizing index previousHasTask with
  | nil =>
    have continued : continues (some reply) = true := by
      simp [continues, replied]
    have ended : continues none = true := rfl
    simp [renderFrom, renderMessage, transitionBefore, continued, ended]
  | cons message front ih =>
    have sameNext :
        (front ++ [last] ++ reply :: rest).head? =
          (front ++ [last]).head? := by
      cases front <;> rfl
    have shifted : index + (message :: front).length + 1 =
        index + 1 + front.length + 1 := by
      simp only [List.length_cons]
      omega
    have round (tail : List PromptMessage) :
        encoder.renderFrom context index previousHasTask (message :: tail) =
          (do
            let emitted ← encoder.renderMessage context index
              previousHasTask message tail.head?
            let others ← encoder.renderFrom context (index + 1)
              (message.task ≠ []) tail
            .ok (emitted ++ others)) :=
      rfl
    rw [List.cons_append, List.cons_append, round, round, sameNext,
      ih, shifted]
    simp only [bind_assoc, ok_bind, List.append_assoc]

/-- The context of a prompt that keeps its thinking. -/
def keptContext
    (tokens : TemplateTokens)
    (options : PromptOptions) : RenderContext :=
  { tokens
    thinking := options.thinkingMode = .thinking
    reasoningEffort := options.reasoningEffort
    dropThinking := false
    lastUserIndex := 0 }

theorem renderInputs_kept
    (messages : List PromptMessage)
    (options : PromptOptions)
    (tokens : TemplateTokens)
    (kept : options.dropThinking = false) :
    renderInputs messages options tokens =
      ({ keptContext tokens options with
          lastUserIndex := findLastUserIndex
            (sortToolResults [] (mergeToolMessages messages)) },
        sortToolResults [] (mergeToolMessages messages)) := by
  simp [renderInputs, keptContext, kept]

/-- A transition emits text only. -/
theorem renderTransition_texts
    {index : Nat}
    {message : PromptMessage}
    {emitted : List Emission}
    (rendered : encoder.renderTransition context index message = .ok emitted) :
    ∃ texts : List Bytes, emitted = texts.map .text := by
  unfold renderTransition at rendered
  simp only at rendered
  split at rendered
  · obtain ⟨token, _, chosen⟩ := bind_eq_ok.mp rendered
    split at chosen
    · exact ⟨[token], (Except.ok.inj chosen).symm⟩
    · exact ⟨[_, _, token], (Except.ok.inj chosen).symm⟩
  · split at rendered
    · exact ⟨[_, _], (Except.ok.inj rendered).symm⟩
    · exact ⟨[], (Except.ok.inj rendered).symm⟩

/-- The text that follows the exact ids of a reply. -/
def followingText
    (encoder : PromptEncoder)
    (tokens : TemplateTokens)
    (options : PromptOptions)
    (question : PromptMessage) : Except Bytes Bytes := do
  let transition ← encoder.renderTransition (keptContext tokens options) 0
    (mergedQuestion question)
  .ok (tokens.eos ++ (tokens.user ++ question.content ++
    transition.flatMap (·.rendered)))

/-- A reply with exact ids, and what is rendered behind it. -/
theorem renderFrom_reply
    (reply question : PromptMessage)
    (replied : reply.role = .assistant)
    (exactly : reply.preencodedIds ≠ [])
    (ended : reply.woEos = false)
    (asked : question.role = .user)
    (kept : context.dropThinking = false)
    (index : Nat)
    (later : 0 < index) :
    encoder.renderFrom context index false
        [reply, mergedQuestion question] = (do
      let transition ←
        encoder.renderTransition context 0 (mergedQuestion question)
      .ok ([.exact (encoder.assistantBody context index false reply)
          reply.preencodedIds, .text context.tokens.eos, .text [],
        .text (context.tokens.user ++ question.content)] ++ transition)) := by
  have notFirst : index ≠ 0 := Nat.pos_iff_ne_zero.mp later
  have mergedAsked : (mergedQuestion question).role = .user := asked
  have mergedBlocks :
      (mergedQuestion question).contentBlocks = [.text question.content] :=
    rfl
  have interrupted : continues (some (mergedQuestion question)) = false := by
    simp [continues, mergedAsked]
  have last : continues none = true := rfl
  have anywhere :
      encoder.renderTransition context (index + 1) (mergedQuestion question) =
        encoder.renderTransition context 0 (mergedQuestion question) := by
    simp [renderTransition, kept]
  simp [renderFrom, renderMessage, transitionBefore, renderBody, replied,
    exactly, ended, interrupted, mergedAsked, mergedBlocks, last, anywhere,
    RenderContext.effortText, notFirst, Bytes.join, renderBlock]

end PromptEncoder

/-! ## Segments -/

theorem foldl_emit_texts
    (front : List Segment)
    (text : Bytes)
    (texts : List Bytes) :
    (texts.map Emission.text).foldl emit (front ++ [{ text := text }]) =
      front ++ [{ text := text ++ texts.flatten }] := by
  induction texts generalizing text with
  | nil =>
    simp
  | cons next texts ih =>
    by_cases empty : next = []
    · simp [emit, empty, ih]
    · have joined :=
        ih (text ++ next)
      simpa [emit, empty] using joined

theorem foldl_emit_reply
    (segments : List Segment)
    (body eos : Bytes)
    (ids : List Nat)
    (texts : List Bytes)
    (exactly : ids ≠ [])
    (ended : eos ≠ []) :
    (.exact body ids :: .text eos :: texts.map Emission.text).foldl emit
        segments =
      segments ++
        [{ text := body, ids := ids }, { text := eos ++ texts.flatten }] := by
  have joined :=
    foldl_emit_texts (segments ++ [{ text := body, ids := ids }]) eos texts
  simpa [emit, exactly, ended] using joined

namespace PromptEncoder

variable {encoder : PromptEncoder}

theorem renderSegments_reply
    {messages : List PromptMessage}
    {first reply question : PromptMessage}
    {options : PromptOptions}
    {tokens : TemplateTokens}
    {segments : List Segment}
    (asked : first.role = .user)
    (untasked : first.task = [])
    (kept : options.dropThinking = false)
    (resolved : resolveTokens encoder.tokenizer = .ok tokens)
    (ended : tokens.eos ≠ [])
    (rendered :
      encoder.renderSegments (messages ++ [first]) options = .ok segments)
    (replied : reply.role = .assistant)
    (exactly : reply.preencodedIds ≠ [])
    (closed : reply.woEos = false)
    (askedAgain : question.role = .user) :
    ∃ body,
      encoder.renderSegments (messages ++ [first] ++ [reply, question])
          options = (do
        let text ← encoder.followingText tokens options question
        .ok (segments ++
          [{ text := body, ids := reply.preencodedIds }, { text := text }])) := by
  obtain ⟨front, last, lastAsked, lastUntasked, ordered, orderedAll⟩ :=
    ordered_reply messages first reply question asked untasked replied
      askedAgain
  have keeps : (keptContext tokens options).dropThinking = false := rfl
  simp only [renderSegments, resolved, ok_bind,
    renderInputs_kept _ _ _ kept, ordered, orderedAll] at rendered ⊢
  split at rendered
  · cases rendered
  · next accepted =>
      obtain ⟨emissions, loop, folded⟩ := bind_eq_ok.mp rendered
      rw [renderFrom_lastUserIndex keeps] at loop
      have segmentsEq := Except.ok.inj folded
      have untaskedLast : decide (last.task ≠ []) = false := by
        simp [lastUntasked]
      refine ⟨encoder.assistantBody (keptContext tokens options)
        (0 + front.length + 1) false reply, ?_⟩
      rw [if_neg accepted, renderFrom_lastUserIndex keeps,
        renderFrom_append front last reply _ replied, loop, untaskedLast,
        renderFrom_reply reply question replied exactly closed askedAgain
          keeps _ (Nat.succ_pos _)]
      cases transition :
          encoder.renderTransition (keptContext tokens options) 0
            (mergedQuestion question) with
      | error error =>
        simp [followingText, transition]
      | ok emitted =>
        obtain ⟨texts, rfl⟩ := renderTransition_texts transition
        have joined := foldl_emit_reply segments
          (encoder.assistantBody (keptContext tokens options)
            (0 + front.length + 1) false reply) tokens.eos
          reply.preencodedIds
          ([] :: (tokens.user ++ question.content) :: texts) exactly ended
        have texted :
            (texts.map Emission.text).flatMap (·.rendered) =
              texts.flatten := by
          simp [List.flatMap_map, Emission.rendered]
        simp only [ok_bind, followingText, transition, texted]
        rw [← List.append_assoc, List.foldl_append, segmentsEq]
        simpa [keptContext] using joined

theorem segmentsTokens_append
    (front back : List Segment) :
    encoder.segmentsTokens (front ++ back) = (do
      let ids ← encoder.segmentsTokens front
      let others ← encoder.segmentsTokens back
      .ok (ids ++ others)) := by
  induction front with
  | nil =>
    cases tokens : encoder.segmentsTokens back with
    | error error => simp [segmentsTokens, tokens]
    | ok ids => simp [segmentsTokens, tokens]
  | cons segment front ih =>
    simp only [List.cons_append, segmentsTokens, ih,
      bind_assoc, ok_bind, List.append_assoc]

/-- The prompt's ids: the front's, the reply's, and the rest's. -/
theorem encodeTokens_reply
    {messages : List PromptMessage}
    {first reply question : PromptMessage}
    {options : PromptOptions}
    {tokens : TemplateTokens}
    {prompt : List Nat}
    (asked : first.role = .user)
    (untasked : first.task = [])
    (kept : options.dropThinking = false)
    (resolved : resolveTokens encoder.tokenizer = .ok tokens)
    (ended : tokens.eos ≠ [])
    (rendered :
      encoder.encodeTokens (messages ++ [first]) options = .ok prompt)
    (replied : reply.role = .assistant)
    (exactly : reply.preencodedIds ≠ [])
    (closed : reply.woEos = false)
    (askedAgain : question.role = .user) :
    encoder.encodeTokens (messages ++ [first] ++ [reply, question])
        options = (do
      let text ← encoder.followingText tokens options question
      let ids ← encoder.tokenizer.encode text
      .ok (prompt ++ reply.preencodedIds ++ ids)) := by
  obtain ⟨segments, segmented, tokenized⟩ := bind_eq_ok.mp rendered
  obtain ⟨body, continued⟩ := renderSegments_reply asked untasked kept
    resolved ended segmented replied exactly closed askedAgain
  rw [encodeTokens, continued]
  simp only [bind_assoc, ok_bind, segmentsTokens_append, tokenized,
    segmentsTokens, segmentTokens, if_neg exactly, if_true,
    List.append_assoc, List.append_nil]

end PromptEncoder

theorem addedTokenText_added
    {tokenizer : Tokenizer}
    {content text : Bytes}
    (resolved : tokenizer.addedTokenText content = .ok text) :
    ∃ token ∈ tokenizer.addedTokens, token.content = text := by
  unfold Tokenizer.addedTokenText at resolved
  split at resolved
  · cases resolved
  · split at resolved
    · next token found =>
        exact ⟨token, List.mem_of_find?_eq_some found,
          Except.ok.inj resolved⟩
    · cases resolved

theorem resolveTokens_eos
    {tokenizer : Tokenizer}
    {tokens : TemplateTokens}
    (resolved : resolveTokens tokenizer = .ok tokens) :
    ∃ token ∈ tokenizer.addedTokens, token.content = tokens.eos := by
  obtain ⟨bos, _, afterBos⟩ := bind_eq_ok.mp resolved
  obtain ⟨eos, eosResolved, afterEos⟩ := bind_eq_ok.mp afterBos
  obtain ⟨start, _, afterStart⟩ := bind_eq_ok.mp afterEos
  obtain ⟨stop, _, afterStop⟩ := bind_eq_ok.mp afterStart
  obtain ⟨user, _, afterUser⟩ := bind_eq_ok.mp afterStop
  obtain ⟨assistant, _, afterAssistant⟩ := bind_eq_ok.mp afterUser
  obtain ⟨reminder, _, afterReminder⟩ := bind_eq_ok.mp afterAssistant
  obtain ⟨dsml, _, returned⟩ := bind_eq_ok.mp afterReminder
  obtain rfl := Except.ok.inj returned
  exact addedTokenText_added eosResolved

/-! ## The next turn -/

open Aeon.Runtime (Engine EngineSetup GenerateCall)

theorem dropLast_prefix_withoutEos
    (eosTokenId : Nat)
    (ids : List Nat) :
    ids.dropLast <+: withoutEos eosTokenId ids := by
  unfold withoutEos
  split
  · exact List.prefix_rfl
  · exact List.dropLast_prefix ids

/-- A completed generation leaves its ids on record. -/
theorem generate_records
    {setup : EngineSetup}
    {engine after : Engine}
    {call : GenerateCall}
    {answer : Runtime.Reply}
    (completed : Runtime.generate setup engine call = (.ok answer, after))
    (sampled : answer.tokenIds ≠ []) :
    call.prompt ≠ [] ∧
      after.session.ids = call.prompt ++ answer.tokenIds.dropLast ∧
      after.session.key = call.computationKey := by
  have settled :
      Runtime.CallSettles call False (Runtime.generate setup engine call) :=
    Runtime.generate_settles setup call False.elim False.elim
  rw [completed] at settled
  have holding := settled.2 sampled
  refine ⟨?_, holding.idsEq, holding.keyEq⟩
  intro empty
  simp [Runtime.generate, empty] at completed

/--
A completed turn and its continuation.  The next prompt is the turn's prompt, the
reply's ids, and the tokens of the text that follows, which starts with the EOS;
it returns when that text can be rendered and tokenized.  Planning it against the
record keeps everything but the last sampled token.
-/
theorem continued_prompt_reused
    {encoder : PromptEncoder}
    {messages : List PromptMessage}
    {first reply question : PromptMessage}
    {options : PromptOptions}
    {tokens : TemplateTokens}
    {setup : EngineSetup}
    {engine after : Engine}
    {call : GenerateCall}
    {answer : Runtime.Reply}
    (resolved : resolveTokens encoder.tokenizer = .ok tokens)
    (unextended :
      ∀ token ∈ encoder.tokenizer.addedTokens,
        tokens.eos <+: token.content → token.content = tokens.eos)
    (asked : first.role = .user)
    (untasked : first.task = [])
    (kept : options.dropThinking = false)
    (rendered :
      encoder.encodeTokens (messages ++ [first]) options = .ok call.prompt)
    (completed : Runtime.generate setup engine call = (.ok answer, after))
    (sampled : answer.tokenIds ≠ [])
    (replied : reply.role = .assistant)
    (body :
      reply.preencodedIds = withoutEos setup.eosTokenId answer.tokenIds)
    (exactly : reply.preencodedIds ≠ [])
    (closed : reply.woEos = false)
    (askedAgain : question.role = .user) :
    (encoder.encodeTokens (messages ++ [first] ++ [reply, question])
        options = (do
      let text ← encoder.followingText tokens options question
      let ids ← encoder.tokenizer.encode text
      .ok (call.prompt ++ reply.preencodedIds ++ ids))) ∧
      ∀ next,
        encoder.encodeTokens (messages ++ [first] ++ [reply, question])
            options = .ok next →
        (∃ eosIds,
          encoder.tokenizer.encode tokens.eos = .ok eosIds ∧
            call.prompt ++ reply.preencodedIds ++ eosIds <+: next) ∧
          (after.session.plan next call.computationKey).verdict = .reused ∧
          (after.session.plan next call.computationKey).start =
            call.prompt.length + answer.tokenIds.length - 1 := by
  have separates : encoder.tokenizer.Separates tokens.eos :=
    ⟨resolveTokens_eos resolved, unextended⟩
  obtain ⟨eosToken, eosListed, eosContent⟩ := separates.added
  have ended : tokens.eos ≠ [] := by
    rw [← eosContent]
    exact encoder.tokenizer.addedNonempty eosToken eosListed
  have continued := PromptEncoder.encodeTokens_reply asked untasked kept
    resolved ended rendered replied exactly closed askedAgain
  refine ⟨continued, ?_⟩
  intro next returned
  rw [continued] at returned
  obtain ⟨text, followed, tokenized⟩ := bind_eq_ok.mp returned
  obtain ⟨ids, encoded, shape⟩ := bind_eq_ok.mp tokenized
  obtain rfl := Except.ok.inj shape
  obtain ⟨transition, _, texted⟩ := bind_eq_ok.mp followed
  obtain rfl := Except.ok.inj texted
  obtain ⟨eosId, eosEncoded, leads⟩ := separates.encode
  obtain ⟨rest, rfl⟩ := leads _ _ encoded
  obtain ⟨prompted, recorded, keyed⟩ := generate_records completed sampled
  have reused :
      (after.session.plan (call.prompt ++ reply.preencodedIds ++ eosId :: rest)
        call.computationKey).verdict = .reused := by
    rw [Session.PrefixRecord.plan_reused_iff, recorded, keyed]
    have fed := dropLast_prefix_withoutEos setup.eosTokenId answer.tokenIds
    rw [← body] at fed
    refine ⟨by simp [prompted], rfl, ?_, ?_⟩
    · have shorter := fed.length_le
      simp only [List.length_append, List.length_cons]
      omega
    · exact List.IsPrefix.trans
        ((List.prefix_append_right_inj call.prompt).mpr fed)
        (List.prefix_append _ _)
  refine ⟨⟨[eosId], eosEncoded, ?_⟩, reused, ?_⟩
  · exact (List.prefix_append_right_inj _).mpr ⟨rest, rfl⟩
  · rw [Session.PrefixRecord.plan_start, if_pos reused, recorded]
    have positive := List.length_pos_iff.mpr sampled
    simp only [List.length_append, List.length_dropLast]
    omega

/-- The added tokens the template needs, longest first. -/
def templateAdded : List Tokenizer.AddedToken :=
  [{ id := 0, flags := 1, content := bytes "<｜begin▁of▁sentence｜>" },
    { id := 1, flags := 1, content := bytes "<｜end▁of▁sentence｜>" },
    { id := 6, flags := 1, content := bytes "<｜latest_reminder｜>" },
    { id := 5, flags := 1, content := bytes "<｜Assistant｜>" },
    { id := 4, flags := 1, content := bytes "<｜User｜>" },
    { id := 7, flags := 1, content := bytes "｜DSML｜" },
    { id := 3, flags := 0, content := bytes "</think>" },
    { id := 2, flags := 0, content := bytes "<think>" }]

/-- A tokenizer with those tokens and the letters `a` and `b`. -/
def smallTokenizer : Tokenizer where
  idLimit := 10
  eosTokenId := 1
  thinkingEndTokenId := 3
  vocabSymbols := fun id =>
    if id = 8 then bytes "a" else if id = 9 then bytes "b" else []
  decodedSymbols := fun id =>
    if id = 8 then bytes "a" else if id = 9 then bytes "b" else []
  symbolToId := fun symbol =>
    if symbol = bytes "a" then some 8
    else if symbol = bytes "b" then some 9
    else none
  mergeRanks := fun _ => none
  addedTokens := templateAdded
  addedContentToId := fun content =>
    (templateAdded.find? fun token => token.content = content).map (·.id)
  longestFirst := by decide
  addedNonempty := by decide

/-- The encoder over it. -/
def smallEncoder : PromptEncoder :=
  { tokenizer := smallTokenizer, pythonReal := id }

/-- The template's tokens there. -/
def smallTokens : TemplateTokens :=
  { bos := bytes "<｜begin▁of▁sentence｜>"
    eos := bytes "<｜end▁of▁sentence｜>"
    thinkingStart := bytes "<think>"
    thinkingEnd := bytes "</think>"
    user := bytes "<｜User｜>"
    assistant := bytes "<｜Assistant｜>"
    latestReminder := bytes "<｜latest_reminder｜>"
    dsml := bytes "｜DSML｜" }

/-- A turn on the prompt of one user message `a`, answered `b` and an EOS. -/
def smallTurn : GenerateCall :=
  { prompt := [0, 4, 8, 5, 3]
    generation := { maxNewTokens := 4 }
    firstToken := some 9
    nextToken := fun _ => some 1 }

/-- The reply as history, with its exact ids. -/
def smallReply : PromptMessage :=
  { role := .assistant, content := bytes "b", preencodedIds := [9] }

/-- A question, its reply and a second question: six tokens are reused. -/
theorem small_continuation_reused :
    (smallEncoder.encodeTokens
        [{ content := bytes "a" }, smallReply, { content := bytes "a" }]
        { dropThinking := false } =
      .ok [0, 4, 8, 5, 3, 9, 1, 4, 8, 5, 3]) ∧
      (((Runtime.generate Runtime.smallSetup {} smallTurn).2.session.plan
        [0, 4, 8, 5, 3, 9, 1, 4, 8, 5, 3] []).verdict = .reused ∧
      ((Runtime.generate Runtime.smallSetup {} smallTurn).2.session.plan
        [0, 4, 8, 5, 3, 9, 1, 4, 8, 5, 3] []).start = 6) := by
  have returned :
      smallEncoder.encodeTokens
          ([] ++ [{ content := bytes "a" }] ++
            [smallReply, { content := bytes "a" }])
          { dropThinking := false } =
        .ok [0, 4, 8, 5, 3, 9, 1, 4, 8, 5, 3] := by
    decide
  have completed :
      Runtime.generate Runtime.smallSetup {} smallTurn =
        (.ok { promptTokens := 5
               reusedTokens := 0
               prefilledTokens := 5
               reuseVerdict := .cold
               tokenIds := [9, 1]
               stopReason := .eos },
          (Runtime.generate Runtime.smallSetup {} smallTurn).2) := by
    decide
  have continued :=
    continued_prompt_reused
      (show resolveTokens smallEncoder.tokenizer = .ok smallTokens by
        decide)
      (by decide) rfl rfl rfl
      (show smallEncoder.encodeTokens ([] ++ [{ content := bytes "a" }])
          { dropThinking := false } = .ok smallTurn.prompt by
        decide)
      completed (by decide) (show smallReply.role = .assistant from rfl)
      (by decide) (by decide) rfl
      (show ({ content := bytes "a" } : PromptMessage).role = .user from rfl)
  exact ⟨returned, (continued.2 _ returned).2⟩

end Aeon.Text
