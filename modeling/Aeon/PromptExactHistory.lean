import Aeon.PromptContinuation

namespace Aeon.Text

/-!
# Exact ids and the rendered text

A reply kept with its ids is emitted as a segment of its own, and the rest of
its message after it.  The text `encode` joins should not show whether a message
carried ids, and each exact body should stand where the body stands in that text.
Both are lost for one message only: a reply with ids that opens the prompt is
emitted before the reasoning-effort preamble, which belongs in front of it.
-/

/-- The message with its exact ids cleared. -/
def PromptMessage.withoutIds (message : PromptMessage) : PromptMessage :=
  { message with preencodedIds := [] }

/-- An exact body and the place in the text where it starts. -/
structure BodyPlace where
  start : Nat
  body : Bytes
  ids : List Nat
  deriving Repr, DecidableEq

/-! ## Places in the segments -/

/-- The exact bodies among the segments, the text counted from `start`. -/
def segmentPlaces : Nat → List Segment → List BodyPlace
  | _, [] => []
  | start, segment :: rest =>
    let others := segmentPlaces (start + segment.text.length) rest
    if segment.ids = [] then others
    else { start, body := segment.text, ids := segment.ids } :: others

/-- The exact bodies among the emissions, the text counted from `start`. -/
def emissionPlaces : Nat → List Emission → List BodyPlace
  | _, [] => []
  | start, .text text :: rest => emissionPlaces (start + text.length) rest
  | start, .exact body ids :: rest =>
    let others := emissionPlaces (start + body.length) rest
    if ids = [] then others else { start, body, ids } :: others

theorem segmentPlaces_append
    (start : Nat)
    (front back : List Segment) :
    segmentPlaces start (front ++ back) =
      segmentPlaces start front ++
        segmentPlaces (start + (front.flatMap (·.text)).length) back := by
  induction front generalizing start with
  | nil =>
    simp [segmentPlaces]
  | cons segment front ih =>
    have shifted :
        start + ((segment :: front).flatMap (·.text)).length =
          start + segment.text.length + (front.flatMap (·.text)).length := by
      simp [Nat.add_assoc]
    rw [shifted]
    by_cases plain : segment.ids = []
    · simp [segmentPlaces, plain, ih]
    · simp [segmentPlaces, plain, ih]

theorem emissionPlaces_append
    (start : Nat)
    (front back : List Emission) :
    emissionPlaces start (front ++ back) =
      emissionPlaces start front ++
        emissionPlaces (start + (front.flatMap (·.rendered)).length) back := by
  induction front generalizing start with
  | nil =>
    simp [emissionPlaces]
  | cons emission front ih =>
    have shifted :
        start + ((emission :: front).flatMap (·.rendered)).length =
          start + emission.rendered.length +
            (front.flatMap (·.rendered)).length := by
      simp [Nat.add_assoc]
    rw [shifted]
    cases emission with
    | text text =>
      simp [emissionPlaces, Emission.rendered, ih]
    | exact body ids =>
      by_cases plain : ids = []
      · simp [emissionPlaces, Emission.rendered, plain,
          ih]
      · simp [emissionPlaces, Emission.rendered, plain,
          ih]

theorem emissionPlaces_texts
    (start : Nat)
    (texts : List Bytes) :
    emissionPlaces start (texts.map .text) = [] := by
  induction texts generalizing start with
  | nil =>
    rfl
  | cons text texts ih =>
    exact ih _

/-- Emitting joins the text and adds the exact body at its end. -/
theorem emit_places
    (segments : List Segment)
    (emission : Emission) :
    (emit segments emission).flatMap (·.text) =
        segments.flatMap (·.text) ++ emission.rendered ∧
      segmentPlaces 0 (emit segments emission) =
        segmentPlaces 0 segments ++
          emissionPlaces (segments.flatMap (·.text)).length [emission] := by
  cases emission with
  | exact body ids =>
    constructor
    · simp [emit, Emission.rendered]
    · rw [emit, segmentPlaces_append]
      simp [segmentPlaces, emissionPlaces]
  | text text =>
    have added :
        (segments ++ [({ text := text } : Segment)]).flatMap (·.text) =
            segments.flatMap (·.text) ++ text ∧
          segmentPlaces 0 (segments ++ [{ text := text }]) =
            segmentPlaces 0 segments := by
      constructor
      · simp
      · simp [segmentPlaces_append, segmentPlaces]
    simp only [emit, Emission.rendered, emissionPlaces, List.append_nil]
    by_cases empty : text = []
    · simp [empty]
    · rw [if_neg empty]
      cases found : segments.getLast? with
      | none =>
        exact added
      | some last =>
        by_cases plain : last.ids = []
        · have shape : segments = segments.dropLast ++ [last] :=
            (List.dropLast_append_getLast? last found).symm
          simp only [plain, if_true]
          generalize segments.dropLast = front at shape
          subst shape
          constructor
          · simp
          · simp [segmentPlaces_append, segmentPlaces, plain]
        · simpa only [plain, if_false] using added

theorem foldl_emit_places
    (emissions : List Emission)
    (segments : List Segment) :
    (emissions.foldl emit segments).flatMap (·.text) =
        segments.flatMap (·.text) ++ emissions.flatMap (·.rendered) ∧
      segmentPlaces 0 (emissions.foldl emit segments) =
        segmentPlaces 0 segments ++
          emissionPlaces (segments.flatMap (·.text)).length emissions := by
  induction emissions generalizing segments with
  | nil =>
    simp [emissionPlaces]
  | cons emission emissions ih =>
    obtain ⟨joined, placed⟩ := emit_places segments emission
    obtain ⟨restJoined, restPlaced⟩ :=
      ih (emit segments emission)
    have split :
        emissionPlaces (segments.flatMap (·.text)).length
            (emission :: emissions) =
          emissionPlaces (segments.flatMap (·.text)).length [emission] ++
            emissionPlaces ((segments.flatMap (·.text)).length +
              emission.rendered.length) emissions := by
      simpa using emissionPlaces_append
        (segments.flatMap (·.text)).length [emission] emissions
    constructor
    · rw [List.foldl_cons, restJoined, joined]
      simp
    · rw [List.foldl_cons, restPlaced, placed, joined, List.length_append,
        split, List.append_assoc]

/-! ## Places in the text -/

namespace PromptEncoder

variable (encoder : PromptEncoder)
variable (context : RenderContext)

/-- The body of a message with ids, behind the text its message starts with. -/
def messagePlaces
    (start index : Nat)
    (previousHasTask : Bool)
    (message : PromptMessage) : List BodyPlace :=
  if message.role = .assistant ∧ message.preencodedIds ≠ [] then
    [{ start := start + (context.effortText index).length
       body := encoder.assistantBody context index previousHasTask message
       ids := message.preencodedIds }]
  else []

/-- Where the bodies of the messages with ids stand in the text that is rendered
without their ids. -/
def placesFrom :
    Nat → Nat → Bool → List PromptMessage → Except Bytes (List BodyPlace)
  | _, _, _, [] => .ok []
  | start, index, previousHasTask, message :: rest => do
      let emitted ←
        encoder.renderMessage context index previousHasTask message.withoutIds
          rest.head?
      let others ←
        placesFrom (start + (emitted.flatMap (·.rendered)).length) (index + 1)
          (message.task ≠ []) rest
      .ok (encoder.messagePlaces context start index previousHasTask message ++
        others)

/-- Where the bodies of the messages with ids stand in `encode` of the messages
without their ids. -/
def bodyPlaces
    (messages : List PromptMessage)
    (options : PromptOptions) : Except Bytes (List BodyPlace) := do
  let tokens ← resolveTokens encoder.tokenizer
  if options.reasoningEffort ≠ bytes "low" ∧
      options.reasoningEffort ≠ bytes "high" ∧
      options.reasoningEffort ≠ bytes "max" then
    .error (bytes "Invalid reasoning effort: " ++ options.reasoningEffort)
  else
    let (context, renderList) := renderInputs messages options tokens
    let start := if options.addDefaultBosToken then tokens.bos.length else 0
    encoder.placesFrom context start 0 false renderList

/-- Where the exact bodies stand among the segments `encode_tokens` joins. -/
def exactPlaces
    (messages : List PromptMessage)
    (options : PromptOptions) : Except Bytes (List BodyPlace) := do
  let segments ← encoder.renderSegments messages options
  .ok (segmentPlaces 0 segments)

/-- The ids leave no trace in the text, and each exact body stands where the
body stands in the text. -/
def RendersAlike
    (messages : List PromptMessage)
    (options : PromptOptions) : Prop :=
  encoder.encode messages options =
      encoder.encode (messages.map (·.withoutIds)) options ∧
    encoder.exactPlaces messages options = encoder.bodyPlaces messages options

variable {encoder context}

theorem transitionBefore_withoutIds
    (index : Nat)
    (message : PromptMessage)
    (next : Option PromptMessage) :
    encoder.transitionBefore context index message.withoutIds next =
      encoder.transitionBefore context index message next :=
  rfl

theorem transitionBefore_texts
    {index : Nat}
    {message : PromptMessage}
    {next : Option PromptMessage}
    {emitted : List Emission}
    (rendered : encoder.transitionBefore context index message next =
      .ok emitted) :
    ∃ texts : List Bytes, emitted = texts.map .text := by
  unfold transitionBefore at rendered
  split at rendered
  · exact renderTransition_texts rendered
  · exact ⟨[], (Except.ok.inj rendered).symm⟩

theorem renderBody_withoutIds
    (index : Nat)
    (previousHasTask : Bool)
    (message : PromptMessage)
    (plain : ¬ (message.role = .assistant ∧ message.preencodedIds ≠ [])) :
    encoder.renderBody context index previousHasTask message.withoutIds =
      encoder.renderBody context index previousHasTask message := by
  obtain ⟨role, content, reasoning, blocks, tools, format, calls, callId, task,
    woEos, ids⟩ := message
  cases role with
  | assistant =>
    have empty : ids = [] := by
      by_contra exactly
      exact plain ⟨rfl, exactly⟩
    subst empty
    rfl
  | _ => rfl

/-- The end of an assistant message. -/
def messageEos (context : RenderContext) (message : PromptMessage) : Bytes :=
  if message.woEos then [] else context.tokens.eos

theorem renderBody_reply
    (index : Nat)
    (previousHasTask : Bool)
    (message : PromptMessage)
    (replied : message.role = .assistant)
    (exactly : message.preencodedIds ≠ []) :
    encoder.renderBody context index previousHasTask message =
        .ok [.exact
            (encoder.assistantBody context index previousHasTask message)
            message.preencodedIds,
          .text (messageEos context message),
          .text (context.effortText index)] ∧
      encoder.renderBody context index previousHasTask message.withoutIds =
        .ok [.text (context.effortText index ++
          encoder.assistantBody context index previousHasTask message ++
          messageEos context message)] := by
  obtain ⟨role, content, reasoning, blocks, tools, format, calls, callId, task,
    woEos, ids⟩ := message
  obtain rfl : role = .assistant := replied
  constructor
  · exact if_neg exactly
  · rfl

theorem renderBody_plain
    {index : Nat}
    {previousHasTask : Bool}
    {message : PromptMessage}
    {emitted : List Emission}
    (plain : ¬ (message.role = .assistant ∧ message.preencodedIds ≠ []))
    (rendered : encoder.renderBody context index previousHasTask message =
      .ok emitted) :
    ∃ text, emitted = [.text text] := by
  unfold renderBody at rendered
  cases role : message.role with
  | system =>
    simp only [role] at rendered
    obtain ⟨declarations, _, chosen⟩ := bind_eq_ok.mp rendered
    exact ⟨_, (Except.ok.inj chosen).symm⟩
  | developer =>
    simp only [role] at rendered
    split at rendered
    · cases rendered
    · obtain ⟨declarations, _, chosen⟩ := bind_eq_ok.mp rendered
      exact ⟨_, (Except.ok.inj chosen).symm⟩
  | user =>
    simp only [role] at rendered
    exact ⟨_, (Except.ok.inj rendered).symm⟩
  | latestReminder =>
    simp only [role] at rendered
    exact ⟨_, (Except.ok.inj rendered).symm⟩
  | tool =>
    simp only [role] at rendered
    cases rendered
  | assistant =>
    have empty : message.preencodedIds = [] := by
      by_contra exactly
      exact plain ⟨role, exactly⟩
    simp only [role, empty, if_true] at rendered
    exact ⟨_, (Except.ok.inj rendered).symm⟩

/-- Both renderings fail alike, or leave the same text with the exact bodies at
the places given. -/
def Aligned
    (start : Nat)
    (rendered cleared : Except Bytes (List Emission))
    (places : Except Bytes (List BodyPlace)) : Prop :=
  (∃ error, rendered = .error error ∧ cleared = .error error ∧
    places = .error error) ∨
  ∃ emitted emittedCleared, rendered = .ok emitted ∧
    cleared = .ok emittedCleared ∧
    emitted.flatMap (·.rendered) = emittedCleared.flatMap (·.rendered) ∧
    places = .ok (emissionPlaces start emitted)

/-- What a reply with ids emits, and what it emits without them, up to the
transition after it. -/
theorem renderMessage_reply
    (index : Nat)
    (previousHasTask : Bool)
    (message : PromptMessage)
    (next : Option PromptMessage)
    (replied : message.role = .assistant)
    (exactly : message.preencodedIds ≠ []) :
    (∃ error,
      encoder.renderMessage context index previousHasTask message next =
          .error error ∧
        encoder.renderMessage context index previousHasTask
          message.withoutIds next = .error error) ∨
    ∃ texts : List Bytes,
      encoder.renderMessage context index previousHasTask message next =
          .ok (.exact
            (encoder.assistantBody context index previousHasTask message)
            message.preencodedIds ::
          (messageEos context message :: context.effortText index ::
            texts).map .text) ∧
        encoder.renderMessage context index previousHasTask
            message.withoutIds next =
          .ok (((context.effortText index ++
            encoder.assistantBody context index previousHasTask message ++
            messageEos context message) :: texts).map .text) := by
  obtain ⟨withIds, withoutIds⟩ := @renderBody_reply encoder context
    index previousHasTask message replied exactly
  cases after : encoder.transitionBefore context index message next with
  | error error =>
    refine .inl ⟨error, ?_, ?_⟩
    · rw [renderMessage, withIds, after]
      rfl
    · rw [renderMessage, withoutIds, transitionBefore_withoutIds, after]
      rfl
  | ok transition =>
    obtain ⟨texts, rfl⟩ := transitionBefore_texts after
    refine .inr ⟨texts, ?_, ?_⟩
    · rw [renderMessage, withIds, after]
      rfl
    · rw [renderMessage, withoutIds, transitionBefore_withoutIds, after]
      rfl

section

variable
    (start index : Nat)
    (previousHasTask : Bool)
    (message : PromptMessage)
    (next : Option PromptMessage)

include start index previousHasTask message next

theorem renderMessage_plain
    (plain : ¬ (message.role = .assistant ∧ message.preencodedIds ≠ [])) :
    encoder.renderMessage context index previousHasTask message.withoutIds
        next =
      encoder.renderMessage context index previousHasTask message next ∧
    ∀ emitted,
      encoder.renderMessage context index previousHasTask message next =
        .ok emitted →
      emissionPlaces start emitted = [] := by
  constructor
  · rw [renderMessage, renderMessage,
      renderBody_withoutIds index previousHasTask message plain,
      transitionBefore_withoutIds]
  · intro emitted rendered
    obtain ⟨body, bodyRendered, rest⟩ := bind_eq_ok.mp rendered
    obtain ⟨transition, after, joined⟩ := bind_eq_ok.mp rest
    obtain ⟨text, rfl⟩ := renderBody_plain plain bodyRendered
    obtain rfl : [Emission.text text] ++ transition = emitted :=
      Except.ok.inj joined
    obtain ⟨texts, rfl⟩ := transitionBefore_texts after
    exact emissionPlaces_texts start (text :: texts)

theorem renderMessage_aligned
    (unprefixed : message.role = .assistant →
      message.preencodedIds ≠ [] → context.effortText index = []) :
    Aligned start
      (encoder.renderMessage context index previousHasTask message next)
      (encoder.renderMessage context index previousHasTask message.withoutIds
        next)
      ((encoder.renderMessage context index previousHasTask message.withoutIds
        next).map fun _ =>
          encoder.messagePlaces context start index previousHasTask
            message) := by
  by_cases exactly : message.role = .assistant ∧ message.preencodedIds ≠ []
  · obtain ⟨replied, hasIds⟩ := exactly
    have noEffort := unprefixed replied hasIds
    rcases @renderMessage_reply encoder context index previousHasTask message
      next replied hasIds with
      ⟨error, failed, failedCleared⟩ | ⟨texts, rendered, cleared⟩
    · exact .inl ⟨error, failed, failedCleared, by rw [failedCleared]; rfl⟩
    · refine .inr ⟨_, _, rendered, cleared, ?_, ?_⟩
      · simp [noEffort, Emission.rendered, List.flatMap_map]
      · have noBodies := emissionPlaces_texts
          (start + (encoder.assistantBody context index previousHasTask
            message).length)
          (messageEos context message :: context.effortText index :: texts)
        rw [cleared, emissionPlaces, if_neg hasIds, noBodies]
        simp [Except.map, messagePlaces, replied, hasIds, noEffort]
  · obtain ⟨same, noBody⟩ := @renderMessage_plain encoder context start
      index previousHasTask message next exactly
    rw [same]
    cases rendered :
        encoder.renderMessage context index previousHasTask message next with
    | error error =>
      exact .inl ⟨error, rfl, rfl, rfl⟩
    | ok emitted =>
      refine .inr ⟨emitted, emitted, rfl, rfl, rfl, ?_⟩
      rw [noBody emitted rendered, messagePlaces, if_neg exactly]
      rfl

end

theorem renderMessage_next
    (index : Nat)
    (previousHasTask : Bool)
    (message : PromptMessage)
    (rest : List PromptMessage) :
    encoder.renderMessage context index previousHasTask message
        (rest.map (·.withoutIds)).head? =
      encoder.renderMessage context index previousHasTask message
        rest.head? := by
  cases rest <;> rfl

/-- What is said of a message and of the messages after it holds of both. -/
theorem aligned_cons
    (start index : Nat)
    (previousHasTask : Bool)
    (message : PromptMessage)
    (rest : List PromptMessage)
    (first : Aligned start
      (encoder.renderMessage context index previousHasTask message rest.head?)
      (encoder.renderMessage context index previousHasTask message.withoutIds
        rest.head?)
      ((encoder.renderMessage context index previousHasTask message.withoutIds
        rest.head?).map fun _ =>
          encoder.messagePlaces context start index previousHasTask message))
    (others : ∀ later, Aligned later
      (encoder.renderFrom context (index + 1) (message.task ≠ []) rest)
      (encoder.renderFrom context (index + 1) (message.task ≠ [])
        (rest.map (·.withoutIds)))
      (encoder.placesFrom context later (index + 1) (message.task ≠ [])
        rest)) :
    Aligned start
      (encoder.renderFrom context index previousHasTask (message :: rest))
      (encoder.renderFrom context index previousHasTask
        ((message :: rest).map (·.withoutIds)))
      (encoder.placesFrom context start index previousHasTask
        (message :: rest)) := by
  have sameTask : message.withoutIds.task = message.task := rfl
  simp only [renderFrom, placesFrom, List.map_cons, sameTask,
    renderMessage_next]
  rcases first with
    ⟨error, failed, failedCleared, _⟩ |
    ⟨emitted, emittedCleared, rendered, cleared, sameText, placed⟩
  · exact .inl ⟨error, by rw [failed]; rfl, by rw [failedCleared]; rfl,
      by rw [failedCleared]; rfl⟩
  · rw [cleared] at placed
    have here :
        encoder.messagePlaces context start index previousHasTask message =
          emissionPlaces start emitted :=
      Except.ok.inj placed
    rcases others (start + (emittedCleared.flatMap (·.rendered)).length) with
      ⟨error, failed, failedCleared, failedPlaces⟩ |
      ⟨tail, tailCleared, renderedTail, clearedTail, sameTail, placedTail⟩
    · refine .inl ⟨error, ?_, ?_, ?_⟩
      · rw [rendered, ok_bind, failed]
        rfl
      · rw [cleared, ok_bind, failedCleared]
        rfl
      · rw [cleared, ok_bind, failedPlaces]
        rfl
    · refine .inr ⟨emitted ++ tail, emittedCleared ++ tailCleared, ?_, ?_, ?_,
        ?_⟩
      · rw [rendered, ok_bind, renderedTail]
        rfl
      · rw [cleared, ok_bind, clearedTail]
        rfl
      · rw [List.flatMap_append, List.flatMap_append, sameText, sameTail]
      · rw [cleared, ok_bind, placedTail, ok_bind, emissionPlaces_append,
          sameText, here]

theorem placesFrom_in_text
    (messages : List PromptMessage)
    {start index : Nat}
    {previousHasTask : Bool}
    {places : List BodyPlace}
    {emitted : List Emission}
    (placed : encoder.placesFrom context start index previousHasTask messages =
      .ok places)
    (rendered : encoder.renderFrom context index previousHasTask
      (messages.map (·.withoutIds)) = .ok emitted)
    {place : BodyPlace}
    (member : place ∈ places) :
    ∃ before after,
      emitted.flatMap (·.rendered) = before ++ place.body ++ after ∧
        place.start = start + before.length := by
  induction messages generalizing start index previousHasTask places emitted
    with
  | nil =>
    obtain rfl := Except.ok.inj placed
    cases member
  | cons message rest ih =>
    have sameTask : message.withoutIds.task = message.task := rfl
    simp only [renderFrom, placesFrom, List.map_cons, sameTask,
      renderMessage_next] at rendered placed
    obtain ⟨first, firstRendered, rendered⟩ := bind_eq_ok.mp rendered
    rw [firstRendered, ok_bind] at placed
    obtain ⟨tail, tailRendered, joined⟩ := bind_eq_ok.mp rendered
    obtain ⟨others, othersPlaced, joinedPlaces⟩ := bind_eq_ok.mp placed
    obtain rfl := Except.ok.inj joined
    obtain rfl := Except.ok.inj joinedPlaces
    rcases List.mem_append.mp member with here | later
    · unfold messagePlaces at here
      split at here
      · next exactly =>
          obtain ⟨replied, hasIds⟩ := exactly
          obtain rfl := List.mem_singleton.mp here
          rcases @renderMessage_reply encoder context index previousHasTask
            message rest.head? replied hasIds with
            ⟨error, _, failed⟩ | ⟨texts, _, cleared⟩
          · rw [firstRendered] at failed
            cases failed
          · rw [firstRendered] at cleared
            obtain rfl := Except.ok.inj cleared
            exact ⟨context.effortText index,
              messageEos context message ++ texts.flatten ++
                tail.flatMap (·.rendered),
              by simp [Emission.rendered, List.flatMap_map], rfl⟩
      · cases here
    · obtain ⟨before, after, shown, starts⟩ :=
        ih othersPlaced tailRendered later
      refine ⟨first.flatMap (·.rendered) ++ before, after, ?_, ?_⟩
      · rw [List.flatMap_append, shown]
        simp
      · rw [starts, List.length_append]
        omega

/-- Where no reply with ids stands behind the preamble, the ids leave no
trace. -/
theorem renderFrom_aligned
    (start index : Nat)
    (previousHasTask : Bool)
    (messages : List PromptMessage)
    (unprefixed : ∀ message, messages.head? = some message →
      message.role = .assistant → message.preencodedIds ≠ [] →
      context.effortText index = []) :
    Aligned start
      (encoder.renderFrom context index previousHasTask messages)
      (encoder.renderFrom context index previousHasTask
        (messages.map (·.withoutIds)))
      (encoder.placesFrom context start index previousHasTask messages) := by
  induction messages generalizing start index previousHasTask with
  | nil =>
    exact .inr ⟨[], [], rfl, rfl, rfl, rfl⟩
  | cons message rest ih =>
    have first := @renderMessage_aligned encoder context start index
      previousHasTask message rest.head? (unprefixed message rfl)
    refine aligned_cons start index previousHasTask message rest first ?_
    intro later
    refine ih later (index + 1) _ ?_
    intros
    -- The preamble belongs to the first message alone.
    simp [RenderContext.effortText]

/-- A reply with ids behind the preamble stands before it instead, as far from
its place as the preamble is long. -/
theorem renderFrom_displaced
    (start : Nat)
    (message : PromptMessage)
    (rest : List PromptMessage)
    (replied : message.role = .assistant)
    (exactly : message.preencodedIds ≠ [])
    (prefixed : context.effortText 0 ≠ []) :
    (∃ error,
      encoder.renderFrom context 0 false (message :: rest) = .error error ∧
        encoder.renderFrom context 0 false
          ((message :: rest).map (·.withoutIds)) = .error error ∧
        encoder.placesFrom context start 0 false (message :: rest) =
          .error error) ∨
    ∃ emitted cleared places,
      encoder.renderFrom context 0 false (message :: rest) = .ok emitted ∧
        encoder.renderFrom context 0 false
          ((message :: rest).map (·.withoutIds)) = .ok cleared ∧
        encoder.placesFrom context start 0 false (message :: rest) =
          .ok places ∧
        places ≠ emissionPlaces start emitted := by
  have sameTask : message.withoutIds.task = message.task := rfl
  simp only [renderFrom, placesFrom, List.map_cons, sameTask,
    renderMessage_next]
  rcases @renderMessage_reply encoder context 0 false message rest.head?
    replied exactly with
    ⟨error, failed, failedCleared⟩ | ⟨texts, rendered, cleared⟩
  · exact .inl ⟨error, by rw [failed]; rfl, by rw [failedCleared]; rfl,
      by rw [failedCleared]; rfl⟩
  · rcases @renderFrom_aligned encoder context
      (start + ((((context.effortText 0 ++
        encoder.assistantBody context 0 false message ++
        messageEos context message) :: texts).map Emission.text).flatMap
          (·.rendered)).length) 1 (message.task ≠ []) rest
      (by intros; simp [RenderContext.effortText]) with
      ⟨error, failed, failedCleared, failedPlaces⟩ |
      ⟨tail, tailCleared, renderedTail, clearedTail, _, placedTail⟩
    · refine .inl ⟨error, ?_, ?_, ?_⟩
      · rw [rendered, ok_bind, failed]
        rfl
      · rw [cleared, ok_bind, failedCleared]
        rfl
      · rw [cleared, ok_bind, failedPlaces]
        rfl
    · rw [rendered, cleared, ok_bind, ok_bind, ok_bind, renderedTail,
        clearedTail, placedTail]
      refine .inr ⟨_, _, _, rfl, rfl, rfl, ?_⟩
      intro same
      have starts := congrArg (fun places => places.head?.map (·.start)) same
      have long : 0 < (context.effortText 0).length :=
        List.length_pos_iff.mpr prefixed
      simp [messagePlaces, replied, exactly, emissionPlaces] at starts
      exact prefixed starts

end PromptEncoder

/-! ## The messages before they are rendered -/

theorem mergeMessage_withoutIds
    (merged : List PromptMessage)
    (message : PromptMessage) :
    mergeMessage (merged.map (·.withoutIds)) message.withoutIds =
      (mergeMessage merged message).map (·.withoutIds) := by
  obtain ⟨role, content, reasoning, blocks, tools, format, calls, callId, task,
    woEos, ids⟩ := message
  cases role with
  | tool =>
    simp only [mergeMessage, PromptMessage.withoutIds, List.getLast?_map]
    cases merged.getLast? with
    | none =>
      simp
    | some last =>
      simp only [Option.map_some]
      split <;> simp [List.map_dropLast]
  | user =>
    simp only [mergeMessage, PromptMessage.withoutIds, List.getLast?_map]
    cases merged.getLast? with
    | none =>
      simp
    | some last =>
      simp only [Option.map_some]
      split <;> simp [List.map_dropLast]
  | system | developer | assistant | latestReminder =>
    simp [mergeMessage, PromptMessage.withoutIds]

theorem mergeToolMessages_withoutIds
    (messages : List PromptMessage) :
    mergeToolMessages (messages.map (·.withoutIds)) =
      (mergeToolMessages messages).map (·.withoutIds) := by
  have folded (merged : List PromptMessage) :
      (messages.map (·.withoutIds)).foldl mergeMessage
          (merged.map (·.withoutIds)) =
        (messages.foldl mergeMessage merged).map (·.withoutIds) := by
    induction messages generalizing merged with
    | nil =>
      rfl
    | cons message messages ih =>
      rw [List.map_cons, List.foldl_cons, mergeMessage_withoutIds,
        ih, List.foldl_cons]
  exact folded []

theorem sortToolResults_withoutIds
    (order : List (Bytes × Nat))
    (messages : List PromptMessage) :
    sortToolResults order (messages.map (·.withoutIds)) =
      (sortToolResults order messages).map (·.withoutIds) := by
  induction messages generalizing order with
  | nil =>
    rfl
  | cons message rest ih =>
    have sameRole : message.withoutIds.role = message.role := rfl
    have sameCalls : message.withoutIds.toolCalls = message.toolCalls := rfl
    have sameBlocks :
        message.withoutIds.contentBlocks = message.contentBlocks :=
      rfl
    simp only [List.map_cons, sortToolResults, sameRole, sameCalls,
      sameBlocks, ih]
    split
    · rfl
    · split
      · rfl
      · rfl

theorem findLastUserIndex_withoutIds
    (messages : List PromptMessage) :
    findLastUserIndex (messages.map (·.withoutIds)) =
      findLastUserIndex messages := by
  have sameKind :
      ((fun entry : PromptMessage × Nat => isUserLike entry.1) ∘
          Prod.map PromptMessage.withoutIds id) =
        fun entry => isUserLike entry.1 :=
    rfl
  unfold findLastUserIndex
  rw [List.zipIdx_map, ← List.map_reverse, List.find?_map, sameKind]
  cases messages.zipIdx.reverse.find? fun entry => isUserLike entry.1 <;> rfl

theorem dropThinkingMessages_withoutIds
    (messages : List PromptMessage) :
    dropThinkingMessages (messages.map (·.withoutIds)) =
      (dropThinkingMessages messages).map (·.withoutIds) := by
  simp only [dropThinkingMessages, findLastUserIndex_withoutIds]
  rw [List.zipIdx_map, List.filterMap_map, List.map_filterMap]
  congr 1
  funext entry
  obtain ⟨message, index⟩ := entry
  have sameRole : message.withoutIds.role = message.role := rfl
  simp only [Function.comp, Prod.map, id, sameRole]
  by_cases kept : (message.role = .user ∨ message.role = .system ∨
    message.role = .tool ∨ message.role = .latestReminder) ∨
      findLastUserIndex messages ≤ (index : Int)
  · rw [if_pos kept, if_pos kept]
    rfl
  · by_cases replied : message.role = .assistant
    · rw [if_neg kept, if_neg kept, if_pos replied, if_pos replied]
      rfl
    · rw [if_neg kept, if_neg kept, if_neg replied, if_neg replied]
      rfl

/-- The messages `render_segments` renders, in order. -/
def renderOrder
    (messages : List PromptMessage)
    (options : PromptOptions) : List PromptMessage :=
  let ordered := sortToolResults [] (mergeToolMessages messages)
  if options.thinkingMode = .thinking ∧ options.dropThinking ∧
      ∀ message ∈ ordered, message.tools = [] then
    dropThinkingMessages ordered
  else ordered

section

variable
    (messages : List PromptMessage)
    (options : PromptOptions)
    (tokens : TemplateTokens)

include messages options tokens

theorem renderInputs_order :
    (PromptEncoder.renderInputs messages options tokens).2 =
      renderOrder messages options := by
  simp [PromptEncoder.renderInputs, renderOrder]

theorem renderInputs_withoutIds :
    PromptEncoder.renderInputs (messages.map (·.withoutIds)) options tokens =
      ((PromptEncoder.renderInputs messages options tokens).1,
        (PromptEncoder.renderInputs messages options tokens).2.map
          (·.withoutIds)) := by
  have sameTools (ordered : List PromptMessage) :
      (ordered.map (·.withoutIds)).any (fun message => message.tools ≠ []) =
        ordered.any fun message => message.tools ≠ [] := by
    rw [List.any_map]
    rfl
  simp only [PromptEncoder.renderInputs, mergeToolMessages_withoutIds,
    sortToolResults_withoutIds, sameTools]
  split
  · rw [dropThinkingMessages_withoutIds, findLastUserIndex_withoutIds]
  · rw [findLastUserIndex_withoutIds]

end

/-- Whether the prompt opens with the reasoning-effort preamble. -/
def PromptOptions.opensWithEffort (options : PromptOptions) : Bool :=
  options.thinkingMode = .thinking &&
    (options.reasoningEffort = bytes "high" ||
      options.reasoningEffort = bytes "max")

/-- Whether the first message that is rendered is a reply with exact ids. -/
def opensWithExactReply
    (messages : List PromptMessage)
    (options : PromptOptions) : Bool :=
  (renderOrder messages options).head?.any fun message =>
    message.role = .assistant && message.preencodedIds ≠ []

namespace PromptEncoder

variable {encoder : PromptEncoder}

/-- The text every prompt starts with. -/
def openingText (options : PromptOptions) (tokens : TemplateTokens) : Bytes :=
  if options.addDefaultBosToken then tokens.bos else []

/-- What the prompt's text and its exact bodies are, given what is emitted. -/
theorem foldl_emit_opening
    (options : PromptOptions)
    (tokens : TemplateTokens)
    (emissions : List Emission) :
    let start : List Emission :=
      if options.addDefaultBosToken then [.text tokens.bos] else []
    ((start ++ emissions).foldl emit []).flatMap (·.text) =
        openingText options tokens ++ emissions.flatMap (·.rendered) ∧
      segmentPlaces 0 ((start ++ emissions).foldl emit []) =
        emissionPlaces (openingText options tokens).length emissions := by
  intro start
  obtain ⟨joined, placed⟩ := foldl_emit_places (start ++ emissions) []
  rw [joined, placed, emissionPlaces_append]
  by_cases marked : options.addDefaultBosToken = true
  · simp [start, openingText, marked, Emission.rendered, emissionPlaces,
      segmentPlaces]
  · simp [start, openingText, marked, emissionPlaces, segmentPlaces]

/-- The preamble is there exactly where the options ask for it. -/
theorem effortText_ne_nil
    (messages : List PromptMessage)
    (options : PromptOptions)
    (tokens : TemplateTokens) :
    (renderInputs messages options tokens).1.effortText 0 ≠ [] ↔
      options.opensWithEffort = true := by
  have high : reasoningEffortHigh ≠ [] := by decide
  have max : reasoningEffortMax ≠ [] := by decide
  have distinct : bytes "max" ≠ bytes "high" := by decide
  by_cases thinking : options.thinkingMode = .thinking
  · by_cases isHigh : options.reasoningEffort = bytes "high"
    · simp [RenderContext.effortText, renderInputs, thinking, isHigh, high,
        PromptOptions.opensWithEffort]
    · by_cases isMax : options.reasoningEffort = bytes "max"
      · simp [RenderContext.effortText, renderInputs, thinking, isMax, max,
          distinct, PromptOptions.opensWithEffort]
      · simp [RenderContext.effortText, renderInputs, thinking, isHigh, isMax,
          PromptOptions.opensWithEffort]
  · simp [RenderContext.effortText, renderInputs, thinking,
      PromptOptions.opensWithEffort]

/-- The render loop and its ids: the text and the places are those without ids
unless the first message is a reply with ids behind the preamble. -/
theorem renderFrom_alike_iff
    (context : RenderContext)
    (opening : Bytes)
    (messages : List PromptMessage) :
    let text (emitted : List Emission) :=
      opening ++ emitted.flatMap (·.rendered)
    let rendered := encoder.renderFrom context 0 false messages
    let cleared :=
      encoder.renderFrom context 0 false (messages.map (·.withoutIds))
    (∀ error, rendered.map text = .error error ↔
      cleared.map text = .error error) ∧
    ∀ joined, cleared.map text = .ok joined →
      ((rendered.map text = cleared.map text ∧
          rendered.map (emissionPlaces opening.length) =
            encoder.placesFrom context opening.length 0 false messages) ↔
        ¬ (context.effortText 0 ≠ [] ∧
          (messages.head?.any fun message =>
            message.role = .assistant && message.preencodedIds ≠ []) =
              true)) := by
  intro text rendered cleared
  by_cases displaced : context.effortText 0 ≠ [] ∧
      (messages.head?.any fun message =>
        message.role = .assistant && message.preencodedIds ≠ []) = true
  · obtain ⟨prefixed, opens⟩ := displaced
    cases messages with
    | nil =>
      cases opens
    | cons message rest =>
      obtain ⟨replied, exactly⟩ :
          message.role = .assistant ∧ message.preencodedIds ≠ [] := by
        simpa using opens
      rcases @renderFrom_displaced encoder context opening.length message
        rest replied exactly prefixed with
        ⟨error, failed, failedCleared, _⟩ |
        ⟨emitted, emittedCleared, places, emits, emitsCleared, placed,
          elsewhere⟩
      · rw [show rendered = .error error from failed,
          show cleared = .error error from failedCleared]
        exact ⟨fun _ => Iff.rfl, fun joined encoded => nomatch encoded⟩
      · simp only [rendered, cleared, emits, emitsCleared, placed]
        refine ⟨fun error => ⟨nofun, nofun⟩, fun joined _ => ?_⟩
        refine iff_of_false (fun alike => ?_) (fun kept => ?_)
        · exact elsewhere (Except.ok.inj alike.2).symm
        · exact kept ⟨prefixed, opens⟩
  · have unprefixed (message : PromptMessage)
        (first : messages.head? = some message)
        (replied : message.role = .assistant)
        (exactly : message.preencodedIds ≠ []) :
        context.effortText 0 = [] := by
      by_contra prefixed
      exact displaced ⟨prefixed, by simp [first, replied, exactly]⟩
    rcases @renderFrom_aligned encoder context opening.length 0 false messages
      unprefixed with
      ⟨error, failed, failedCleared, _⟩ |
      ⟨emitted, emittedCleared, emits, emitsCleared, sameText, placed⟩
    · rw [show rendered = .error error from failed,
        show cleared = .error error from failedCleared]
      exact ⟨fun _ => Iff.rfl, fun joined encoded => nomatch encoded⟩
    · simp only [rendered, cleared, emits, emitsCleared, placed]
      refine ⟨fun error => ⟨nofun, nofun⟩, fun joined _ => ?_⟩
      refine iff_of_true ⟨?_, rfl⟩ displaced
      exact congrArg (fun shown => Except.ok (opening ++ shown)) sameText

section

variable
    {messages : List PromptMessage}
    {options : PromptOptions}
    {tokens : TemplateTokens}
    (resolved : resolveTokens encoder.tokenizer = .ok tokens)

include resolved

/-- Before anything is rendered, the ids play no part. -/
theorem renderSegments_refused
    (invalid : options.reasoningEffort ≠ bytes "low" ∧
      options.reasoningEffort ≠ bytes "high" ∧
      options.reasoningEffort ≠ bytes "max") :
    encoder.renderSegments messages options =
      .error (bytes "Invalid reasoning effort: " ++
        options.reasoningEffort) := by
  rw [renderSegments, resolved]
  exact if_pos invalid

theorem encode_valid
    (valid : ¬ (options.reasoningEffort ≠ bytes "low" ∧
      options.reasoningEffort ≠ bytes "high" ∧
      options.reasoningEffort ≠ bytes "max")) :
    let inputs := renderInputs messages options tokens
    let opening := openingText options tokens
    let emissions := encoder.renderFrom inputs.1 0 false inputs.2
    encoder.encode messages options =
        emissions.map (fun emitted => opening ++ emitted.flatMap (·.rendered)) ∧
      encoder.exactPlaces messages options =
        emissions.map (emissionPlaces opening.length) ∧
      encoder.bodyPlaces messages options =
        encoder.placesFrom inputs.1 opening.length 0 false inputs.2 := by
  intro inputs opening emissions
  have segments :
      encoder.renderSegments messages options =
        emissions.map fun emitted =>
          ((if options.addDefaultBosToken then [.text tokens.bos] else []) ++
            emitted).foldl emit [] := by
    rw [renderSegments, resolved, ok_bind, if_neg valid]
    change (emissions >>= fun emitted => _) = _
    cases emissions <;> rfl
  have length :
      opening.length =
        if options.addDefaultBosToken then tokens.bos.length else 0 := by
    simp only [opening, openingText]
    split <;> rfl
  refine ⟨?_, ?_, ?_⟩
  · rw [encode, segments]
    cases rendered : emissions with
    | error error => rfl
    | ok emitted =>
      exact congrArg Except.ok
        (foldl_emit_opening options tokens emitted).1
  · rw [exactPlaces, segments]
    cases rendered : emissions with
    | error error => rfl
    | ok emitted =>
      exact congrArg Except.ok
        (foldl_emit_opening options tokens emitted).2
  · rw [bodyPlaces, resolved, ok_bind, if_neg valid, length]

end

theorem bodyPlaces_in_encode
    {messages : List PromptMessage}
    {options : PromptOptions}
    {text : Bytes}
    {places : List BodyPlace}
    (encoded : encoder.encode (messages.map (·.withoutIds)) options = .ok text)
    (placed : encoder.bodyPlaces messages options = .ok places)
    {place : BodyPlace}
    (member : place ∈ places) :
    ∃ before after, text = before ++ place.body ++ after ∧
      before.length = place.start := by
  obtain ⟨tokens, resolved, rest⟩ := bind_eq_ok.mp placed
  by_cases invalid : options.reasoningEffort ≠ bytes "low" ∧
      options.reasoningEffort ≠ bytes "high" ∧
      options.reasoningEffort ≠ bytes "max"
  · rw [if_pos invalid] at rest
    cases rest
  · obtain ⟨_, _, bodies⟩ :=
      @encode_valid encoder messages options tokens resolved invalid
    obtain ⟨encodedCleared, _, _⟩ :=
      @encode_valid encoder (messages.map (·.withoutIds)) options tokens
        resolved invalid
    rw [bodies] at placed
    rw [renderInputs_withoutIds, encoded] at encodedCleared
    cases rendered : encoder.renderFrom
        (renderInputs messages options tokens).1 0 false
        ((renderInputs messages options tokens).2.map (·.withoutIds)) with
    | error error =>
      rw [rendered] at encodedCleared
      cases encodedCleared
    | ok emitted =>
      rw [rendered] at encodedCleared
      obtain ⟨before, after, shown, starts⟩ :=
        placesFrom_in_text _ placed rendered member
      refine ⟨openingText options tokens ++ before, after, ?_, ?_⟩
      · have joined :
            text = openingText options tokens ++
              emitted.flatMap (·.rendered) :=
          Except.ok.inj encodedCleared
        rw [joined, shown]
        simp
      · rw [starts, List.length_append]

theorem encode_alike_iff
    (encoder : PromptEncoder)
    (messages : List PromptMessage)
    (options : PromptOptions) :
    (∀ error,
      encoder.encode messages options = .error error ↔
        encoder.encode (messages.map (·.withoutIds)) options = .error error) ∧
    ∀ text, encoder.encode (messages.map (·.withoutIds)) options = .ok text →
      (encoder.RendersAlike messages options ↔
        ¬ (options.opensWithEffort = true ∧
          opensWithExactReply messages options = true)) := by
  cases resolved : resolveTokens encoder.tokenizer with
  | error failure =>
    have refused (given : List PromptMessage) :
        encoder.encode given options = .error failure := by
      rw [encode, renderSegments, resolved]
      rfl
    rw [refused, refused]
    exact ⟨fun error => Iff.rfl, fun text encoded => by cases encoded⟩
  | ok tokens =>
    by_cases invalid : options.reasoningEffort ≠ bytes "low" ∧
        options.reasoningEffort ≠ bytes "high" ∧
        options.reasoningEffort ≠ bytes "max"
    · have refused (given : List PromptMessage) :
          encoder.encode given options =
            .error (bytes "Invalid reasoning effort: " ++
              options.reasoningEffort) := by
        rw [encode, renderSegments_refused resolved invalid]
        rfl
      rw [refused, refused]
      exact ⟨fun error => Iff.rfl, fun text encoded => by cases encoded⟩
    · obtain ⟨encoded, exactly, bodies⟩ :=
        @encode_valid encoder messages options tokens resolved invalid
      obtain ⟨encodedCleared, _, _⟩ :=
        @encode_valid encoder (messages.map (·.withoutIds)) options tokens
          resolved invalid
      rw [renderInputs_withoutIds] at encodedCleared
      have prefixed := effortText_ne_nil messages options tokens
      have order := renderInputs_order messages options tokens
      unfold RendersAlike
      rw [encoded, encodedCleared, exactly, bodies, ← prefixed,
        opensWithExactReply, ← order]
      exact renderFrom_alike_iff _ _ _

/-- Encoding fails with the ids exactly as it does without them.  Where it
succeeds, the ids leave the text alone and each exact body stands where the body
stands in that text, unless the prompt opens with the reasoning-effort preamble
and a reply with ids. -/
theorem rendersAlike_iff
    (encoder : PromptEncoder)
    (messages : List PromptMessage)
    (options : PromptOptions) :
    (∀ error,
      encoder.encode messages options = .error error ↔
        encoder.encode (messages.map (·.withoutIds)) options = .error error) ∧
    ∀ text, encoder.encode (messages.map (·.withoutIds)) options = .ok text →
      (∀ places, encoder.bodyPlaces messages options = .ok places →
        ∀ place ∈ places, ∃ before after,
          text = before ++ place.body ++ after ∧
            before.length = place.start) ∧
      (encoder.RendersAlike messages options ↔
        ¬ (options.opensWithEffort = true ∧
          opensWithExactReply messages options = true)) := by
  obtain ⟨failsAlike, alike⟩ := encode_alike_iff encoder messages options
  refine ⟨failsAlike, fun text encoded => ⟨?_, alike text encoded⟩⟩
  intro places placed place member
  exact bodyPlaces_in_encode encoded placed member

/-- Thinking at high effort. -/
def deepThinking : PromptOptions :=
  { thinkingMode := .thinking, dropThinking := false
    reasoningEffort := bytes "high" }

/-- A reply with ids between two questions renders as it does without them. -/
theorem smallReply_rendersAlike :
    smallEncoder.RendersAlike
      [{ content := bytes "a" }, smallReply, { content := bytes "a" }]
      deepThinking := by
  have encoded : ∃ text, smallEncoder.encode
      ([{ content := bytes "a" }, smallReply,
        { content := bytes "a" }].map (·.withoutIds)) deepThinking =
      .ok text :=
    ⟨(smallEncoder.encode
      ([{ content := bytes "a" }, smallReply,
        { content := bytes "a" }].map (·.withoutIds)) deepThinking).toOption.get
        (by decide), by decide +kernel⟩
  obtain ⟨text, encoded⟩ := encoded
  exact ((rendersAlike_iff smallEncoder _ deepThinking).2 text encoded).2.mpr
    (by decide)

/-- A reply with ids that opens the prompt puts its text before the preamble. -/
theorem smallReply_displaces_effort :
    smallEncoder.encode [smallReply] deepThinking ≠
        smallEncoder.encode [smallReply.withoutIds] deepThinking ∧
      ¬ smallEncoder.RendersAlike [smallReply] deepThinking := by
  have texts :
      smallEncoder.encode [smallReply] deepThinking ≠
        smallEncoder.encode [smallReply.withoutIds] deepThinking := by
    decide
  exact ⟨texts, fun alike => texts alike.1⟩

end PromptEncoder

end Aeon.Text
