import Aeon.Conversation

namespace Aeon.Runtime

open Aeon.Text

/-!
# What the computation key separates

The key writes its fields one after the other, each behind a textual mark, and the
declared schemas with a separator behind each.  It can be taken apart again as long as
no schema holds the separator or starts like a mark.  What it does not always say is
what the encoder does with the thinking: the key looks for tools in the messages it is
given, the encoder in the messages it has merged.
-/

/-! ## Terminated fields -/

section Terminated

variable {α : Type}

/-- The fields, each with the mark behind it. -/
def terminated
    (mark : α)
    (fields : List (List α)) : List α :=
  fields.flatMap fun field => field ++ [mark]

@[simp] theorem terminated_nil
    (mark : α) :
    terminated mark [] = [] :=
  rfl

@[simp] theorem terminated_cons
    (mark : α)
    (field : List α)
    (fields : List (List α)) :
    terminated mark (field :: fields) =
      field ++ mark :: terminated mark fields := by
  simp [terminated]

theorem append_mark_inj
    {mark : α}
    {field other rest otherRest : List α}
    (unmarked : mark ∉ field)
    (otherUnmarked : mark ∉ other)
    (same : field ++ mark :: rest = other ++ mark :: otherRest) :
    field = other ∧ rest = otherRest := by
  induction field generalizing other with
  | nil =>
    cases other with
    | nil => exact ⟨rfl, List.tail_eq_of_cons_eq same⟩
    | cons first others =>
      obtain ⟨rfl, -⟩ := List.cons.inj same
      exact absurd List.mem_cons_self otherUnmarked
  | cons first field ih =>
    cases other with
    | nil =>
      obtain ⟨rfl, -⟩ := List.cons.inj same
      exact absurd List.mem_cons_self unmarked
    | cons second others =>
      obtain ⟨rfl, behind⟩ := List.cons.inj same
      obtain ⟨rfl, rest⟩ :=
        ih (fun listed => unmarked (List.mem_cons_of_mem _ listed))
          (fun listed => otherUnmarked (List.mem_cons_of_mem _ listed)) behind
      exact ⟨rfl, rest⟩

/-- A field that the mark ends and that does not start like what follows the last. -/
structure Field (mark stop : α) (field : List α) : Prop where
  unmarked : mark ∉ field
  starts : field.head? ≠ some stop

/-- What follows the last field: nothing, or a text with its own start. -/
def Follows (stop : α) (rest : List α) : Prop :=
  ∀ first, rest.head? = some first → first = stop

theorem Follows.not_field
    {mark stop : α}
    {field rest behind : List α}
    (follows : Follows stop rest)
    (apart : mark ≠ stop)
    (isField : Field mark stop field)
    (same : rest = field ++ mark :: behind) :
    False := by
  cases field with
  | nil => exact apart (follows mark (by simp [same]))
  | cons first field =>
    have stops : first = stop := follows first (by simp [same])
    exact isField.starts (by simp [stops])

theorem terminated_inj
    {mark stop : α}
    {fields others : List (List α)}
    {rest otherRest : List α}
    (apart : mark ≠ stop)
    (areFields : ∀ field ∈ fields, Field mark stop field)
    (areOthers : ∀ field ∈ others, Field mark stop field)
    (follows : Follows stop rest)
    (otherFollows : Follows stop otherRest)
    (same : terminated mark fields ++ rest = terminated mark others ++ otherRest) :
    fields = others ∧ rest = otherRest := by
  induction fields generalizing others with
  | nil =>
    cases others with
    | nil => exact ⟨rfl, same⟩
    | cons other others =>
      have again : rest = other ++ mark :: (terminated mark others ++ otherRest) := by
        simpa using same
      exact (follows.not_field apart (areOthers other List.mem_cons_self) again).elim
  | cons field fields ih =>
    cases others with
    | nil =>
      have again : otherRest = field ++ mark :: (terminated mark fields ++ rest) := by
        simpa using same.symm
      exact (otherFollows.not_field apart
        (areFields field List.mem_cons_self) again).elim
    | cons other others =>
      simp only [terminated_cons, List.append_assoc, List.cons_append] at same
      obtain ⟨rfl, behind⟩ :=
        append_mark_inj (areFields field List.mem_cons_self).unmarked
          (areOthers other List.mem_cons_self).unmarked same
      obtain ⟨rfl, rest⟩ :=
        ih
          (fun listed member => areFields listed (List.mem_cons_of_mem _ member))
          (fun listed member => areOthers listed (List.mem_cons_of_mem _ member))
          behind
      exact ⟨rfl, rest⟩

end Terminated

/-! ## The configuration of a turn -/

/-- The messages whose tools and response format the encoder renders. -/
def declaring (messages : List PromptMessage) : List PromptMessage :=
  messages.filter fun message =>
    message.role = .system || message.role = .developer

/-- The tool schemas declared on system and developer messages, in order. -/
def declaredTools (messages : List PromptMessage) : List Bytes :=
  (declaring messages).flatMap fun message =>
    message.tools.map ToolDefinition.functionJson

/-- The response formats declared on system and developer messages, in order. -/
def declaredFormats (messages : List PromptMessage) : List Bytes :=
  ((declaring messages).map PromptMessage.responseFormatJson).filter
    fun format => format ≠ []

/-- What the key takes for the effective `drop_thinking`. -/
def keyDropThinking
    (messages : List PromptMessage)
    (options : PromptOptions) : Bool :=
  options.dropThinking && !messages.any fun message => message.tools ≠ []

/-- The effective `drop_thinking`, as the encoder computes it. -/
def encoderDropThinking
    (messages : List PromptMessage)
    (options : PromptOptions) : Bool :=
  keyDropThinking (sortToolResults [] (mergeToolMessages messages)) options

/-- A turn's messages and options. -/
structure Turn where
  messages : List PromptMessage
  options : PromptOptions
  deriving Repr, DecidableEq

/-- The turn's key. -/
def Turn.key (turn : Turn) : Bytes :=
  dsv4ComputationKey turn.messages turn.options

/-- No schema holds the separator or starts like the next mark. -/
def Turn.Clean (turn : Turn) : Prop :=
  ∀ message ∈ turn.messages,
    (∀ tool ∈ message.tools, Field 0x1f 0x7c tool.functionJson) ∧
      Field 0x1f 0x7c message.responseFormatJson

/-- The reasoning effort is one the encoder knows. -/
def Turn.KnownEffort (turn : Turn) : Prop :=
  turn.options.reasoningEffort = bytes "low" ∨
    turn.options.reasoningEffort = bytes "high" ∨
      turn.options.reasoningEffort = bytes "max"

/-- Two turns agree on everything the key names but the thinking that is dropped. -/
structure Turn.AgreesWith (one other : Turn) : Prop where
  thinkingMode : one.options.thinkingMode = other.options.thinkingMode
  reasoningEffort : one.options.reasoningEffort = other.options.reasoningEffort
  bosToken : one.options.addDefaultBosToken = other.options.addDefaultBosToken
  tools : declaredTools one.messages = declaredTools other.messages
  formats : declaredFormats one.messages = declaredFormats other.messages

/-! ## Taking the key apart -/

theorem Turn.key_eq (turn : Turn) :
    turn.key =
      bytes "thinking=" ++ (keyFlag (turn.options.thinkingMode = .thinking) ++
        (bytes "|drop=" ++
          (keyFlag (keyDropThinking turn.messages turn.options) ++
            (bytes "|effort=" ++ (turn.options.reasoningEffort ++
              (bytes "|bos=" ++ (keyFlag turn.options.addDefaultBosToken ++
                (bytes "|tools=" ++
                  (terminated 0x1f (declaredTools turn.messages) ++
                    (bytes "|fmt=" ++
                      terminated 0x1f
                        (declaredFormats turn.messages))))))))))) := by
  have tools :
      terminated 0x1f (declaredTools turn.messages) =
        (declaring turn.messages).flatMap fun message =>
          message.tools.flatMap fun tool => tool.functionJson ++ [0x1f] := by
    simp [terminated, declaredTools, List.flatMap_assoc, List.flatMap_map]
  have formats :
      terminated 0x1f (declaredFormats turn.messages) =
        (declaring turn.messages).flatMap fun message =>
          if message.responseFormatJson = [] then []
          else message.responseFormatJson ++ [0x1f] := by
    unfold declaredFormats
    induction declaring turn.messages with
    | nil => rfl
    | cons message messages ih =>
      rw [List.flatMap_cons, ← ih, List.map_cons]
      by_cases absent : message.responseFormatJson = []
      · simp [absent]
      · simp [absent]
  rw [tools, formats]
  simp [Turn.key, dsv4ComputationKey, keyDropThinking, declaring]

theorem keyFlag_length (value : Bool) : (keyFlag value).length = 1 := by
  cases value <;> decide

theorem keyFlag_injective
    {one other : Bool}
    (same : keyFlag one = keyFlag other) :
    one = other := by
  cases one <;> cases other <;> first | rfl | exact absurd same (by decide)

theorem keyFlag_append_inj
    {front : Bytes}
    {one other : Bool}
    {rest otherRest : Bytes}
    (same :
      front ++ (keyFlag one ++ rest) = front ++ (keyFlag other ++ otherRest)) :
    one = other ∧ rest = otherRest := by
  obtain ⟨flags, behind⟩ :=
    List.append_inj (List.append_cancel_left same)
      ((keyFlag_length one).trans (keyFlag_length other).symm)
  exact ⟨keyFlag_injective flags, behind⟩

theorem Turn.KnownEffort.unmarked
    {turn : Turn}
    (known : turn.KnownEffort) :
    (0x7c : UInt8) ∉ turn.options.reasoningEffort := by
  rcases known with effort | effort | effort <;> rw [effort] <;> decide

theorem Turn.Clean.tools
    {turn : Turn}
    (clean : turn.Clean) :
    ∀ field ∈ declaredTools turn.messages, Field 0x1f 0x7c field := by
  intro field listed
  obtain ⟨message, declares, isTool⟩ := List.mem_flatMap.mp listed
  obtain ⟨tool, isDeclared, rfl⟩ := List.mem_map.mp isTool
  exact (clean message (List.mem_of_mem_filter declares)).1 tool isDeclared

theorem Turn.Clean.formats
    {turn : Turn}
    (clean : turn.Clean) :
    ∀ field ∈ declaredFormats turn.messages, Field 0x1f 0x7c field := by
  intro field listed
  obtain ⟨message, declares, rfl⟩ :=
    List.mem_map.mp (List.mem_of_mem_filter listed)
  exact (clean message (List.mem_of_mem_filter declares)).2

theorem Turn.agreesWith_of_key
    {one other : Turn}
    (clean : one.Clean)
    (otherClean : other.Clean)
    (known : one.KnownEffort)
    (otherKnown : other.KnownEffort)
    (same : one.key = other.key) :
    one.AgreesWith other ∧
      keyDropThinking one.messages one.options =
        keyDropThinking other.messages other.options := by
  rw [one.key_eq, other.key_eq] at same
  obtain ⟨thinking, same⟩ := keyFlag_append_inj same
  obtain ⟨drop, same⟩ := keyFlag_append_inj same
  have marked (rest : Bytes) : bytes "|bos=" ++ rest = 0x7c :: (bytes "bos=" ++ rest) := by
    rw [← List.cons_append]
    exact congrArg (· ++ rest) (by decide)
  have effortThen := List.append_cancel_left same
  rw [marked, marked] at effortThen
  obtain ⟨effort, same⟩ :=
    append_mark_inj known.unmarked otherKnown.unmarked effortThen
  obtain ⟨bos, same⟩ := keyFlag_append_inj same
  have follows (rest : Bytes) : Follows 0x7c (bytes "|fmt=" ++ rest) := by
    intro first starts
    rw [show bytes "|fmt=" = 0x7c :: bytes "fmt=" by decide] at starts
    exact (Option.some.inj starts).symm
  obtain ⟨tools, same⟩ :=
    terminated_inj (by decide) clean.tools otherClean.tools (follows _) (follows _)
      (List.append_cancel_left same)
  have last := List.append_cancel_left same
  rw [← List.append_nil (terminated _ (declaredFormats one.messages)),
    ← List.append_nil (terminated _ (declaredFormats other.messages))] at last
  obtain ⟨formats, -⟩ :=
    terminated_inj (by decide) clean.formats otherClean.formats
      (fun _ starts => absurd starts (by simp)) (fun _ starts => absurd starts (by simp))
      last
  refine ⟨⟨?_, effort, bos, tools, formats⟩, drop⟩
  cases oneMode : one.options.thinkingMode <;>
    cases otherMode : other.options.thinkingMode <;>
    simp [oneMode, otherMode] at thinking ⊢

theorem Turn.AgreesWith.key
    {one other : Turn}
    (agrees : one.AgreesWith other)
    (drop :
      keyDropThinking one.messages one.options =
        keyDropThinking other.messages other.options) :
    one.key = other.key := by
  rw [one.key_eq, other.key_eq, agrees.thinkingMode, drop, agrees.reasoningEffort,
    agrees.bosToken, agrees.tools, agrees.formats]

/-! ## The thinking that is dropped -/

theorem mergeToolMessages_toolless
    {messages : List PromptMessage}
    (toolless : ∀ message ∈ messages, message.tools = []) :
    ∀ message ∈ mergeToolMessages messages, message.tools = [] := by
  have step
      (merged : List PromptMessage)
      (original : PromptMessage)
      (none : original.tools = [])
      (earlier : ∀ message ∈ merged, message.tools = []) :
      ∀ message ∈ mergeMessage merged original, message.tools = [] := by
    have last
        {final : PromptMessage}
        (isLast : merged.getLast? = some final) : final.tools = [] :=
      earlier final (List.mem_of_getLast? isLast)
    have front : ∀ message ∈ merged.dropLast, message.tools = [] :=
      fun message listed => earlier message (List.mem_of_mem_dropLast listed)
    unfold mergeMessage
    simp only
    split <;> (try split) <;> (try split) <;> simp_all [or_imp]
  suffices run : ∀ merged : List PromptMessage,
      (∀ message ∈ merged, message.tools = []) →
        ∀ message ∈ messages.foldl mergeMessage merged, message.tools = [] from
    run [] (by simp)
  intro merged earlier
  induction messages generalizing merged with
  | nil => exact earlier
  | cons original messages ih =>
    obtain ⟨none, later⟩ := List.forall_mem_cons.mp toolless
    exact ih later _ (step merged original none earlier)

theorem sortToolResults_tools
    (order : List (Bytes × Nat))
    (messages : List PromptMessage) :
    (sortToolResults order messages).map PromptMessage.tools =
      messages.map PromptMessage.tools := by
  induction messages generalizing order with
  | nil => rfl
  | cons message messages ih =>
    rw [sortToolResults]
    split
    · rw [List.map_cons, ih, List.map_cons]
    · split
      · rw [List.map_cons, ih, List.map_cons]
      · rw [List.map_cons, ih, List.map_cons]

theorem encoderDropThinking_of_key
    {messages : List PromptMessage}
    {options : PromptOptions}
    (drops : keyDropThinking messages options = true) :
    encoderDropThinking messages options = true := by
  simp only [encoderDropThinking, keyDropThinking, Bool.and_eq_true,
    Bool.not_eq_true', List.any_eq_false, decide_eq_true_eq, not_not] at drops ⊢
  refine ⟨drops.1, fun message listed => ?_⟩
  have tools := List.mem_map_of_mem (f := PromptMessage.tools) listed
  rw [sortToolResults_tools] at tools
  obtain ⟨merged, isMerged, same⟩ := List.mem_map.mp tools
  rw [← same]
  exact mergeToolMessages_toolless drops.2 merged isMerged

/--
The only tool declarations of a turn stand on messages that the merge takes in: a
tool message, or a user message behind another.  The encoder does not see them.
-/
def Turn.LosesTools (turn : Turn) : Prop :=
  turn.options.dropThinking = true ∧
    (∃ message ∈ turn.messages, message.tools ≠ []) ∧
      ∀ message ∈ mergeToolMessages turn.messages, message.tools = []

theorem Turn.losesTools_iff (turn : Turn) :
    turn.LosesTools ↔
      keyDropThinking turn.messages turn.options = false ∧
        encoderDropThinking turn.messages turn.options = true := by
  have sorted :
      ((sortToolResults [] (mergeToolMessages turn.messages)).any fun message =>
          decide (message.tools ≠ [])) =
        (mergeToolMessages turn.messages).any fun message =>
          decide (message.tools ≠ []) := by
    have tools := sortToolResults_tools [] (mergeToolMessages turn.messages)
    have anyOf (messages : List PromptMessage) :
        (messages.any fun message => decide (message.tools ≠ [])) =
          (messages.map PromptMessage.tools).any fun tools =>
            decide (tools ≠ []) := by
      rw [List.any_map]
      rfl
    rw [anyOf, anyOf, tools]
  unfold Turn.LosesTools encoderDropThinking keyDropThinking
  rw [sorted]
  cases turn.options.dropThinking <;> simp

/-- Two turns of one key are one configuration. -/
def Turn.SeparatedFrom (one other : Turn) : Prop :=
  one.key = other.key →
    one.AgreesWith other ∧
      encoderDropThinking one.messages one.options =
        encoderDropThinking other.messages other.options

/-- One turn loses its tools and drops its thinking, and the other keeps its own. -/
def Turn.LosesBeside (one other : Turn) : Prop :=
  one.LosesTools ∧ encoderDropThinking other.messages other.options = false

/--
The key separates two turns unless they agree on everything else and one of them
loses its tools while the other keeps its thinking.
-/
theorem Turn.separatedFrom_iff
    {one other : Turn}
    (clean : one.Clean)
    (otherClean : other.Clean)
    (known : one.KnownEffort)
    (otherKnown : other.KnownEffort) :
    one.SeparatedFrom other ↔
      ¬ (one.AgreesWith other ∧
        (one.LosesBeside other ∨ other.LosesBeside one)) := by
  have agree := @Turn.agreesWith_of_key one other clean otherClean known otherKnown
  have oneLoses := one.losesTools_iff
  have otherLoses := other.losesTools_iff
  have oneDrops := @encoderDropThinking_of_key one.messages one.options
  have otherDrops := @encoderDropThinking_of_key other.messages other.options
  constructor
  · rintro separated ⟨agrees, loses⟩
    have drop :
        keyDropThinking one.messages one.options =
          keyDropThinking other.messages other.options := by
      rcases loses with ⟨lost, keeps⟩ | ⟨lost, keeps⟩
      · rw [(oneLoses.mp lost).1]
        exact (Bool.eq_false_iff.mpr fun drops => by simp [otherDrops drops] at keeps).symm
      · rw [(otherLoses.mp lost).1]
        exact Bool.eq_false_iff.mpr fun drops => by simp [oneDrops drops] at keeps
    obtain ⟨-, same⟩ := separated (agrees.key drop)
    rcases loses with ⟨lost, keeps⟩ | ⟨lost, keeps⟩
    · rw [(oneLoses.mp lost).2, keeps] at same
      cases same
    · rw [(otherLoses.mp lost).2, keeps] at same
      cases same
  · intro whole same
    obtain ⟨agrees, drop⟩ := agree same
    refine ⟨agrees, ?_⟩
    by_contra differ
    refine whole ⟨agrees, ?_⟩
    unfold Turn.LosesBeside
    rw [oneLoses, otherLoses]
    cases oneKey : keyDropThinking one.messages one.options with
    | true =>
      rw [oneKey] at drop
      exact absurd ((oneDrops oneKey).trans (otherDrops drop.symm).symm) differ
    | false =>
      rw [oneKey] at drop
      cases oneEncoder : encoderDropThinking one.messages one.options <;>
        cases otherEncoder : encoderDropThinking other.messages other.options <;>
        simp_all

/-- A user message with a tool, merged into the one before it. -/
def mergedToolTurn : Turn where
  messages :=
    [{ content := bytes "a" },
      { content := bytes "b", tools := [{ functionJson := bytes "\x7b\x7d" }] }]
  options := {}

/-- The same messages, with the thinking kept. -/
def keptThinkingTurn : Turn where
  messages := mergedToolTurn.messages
  options := { dropThinking := false }

theorem mergedToolTurn_clean :
    mergedToolTurn.Clean ∧ keptThinkingTurn.Clean := by
  have clean : mergedToolTurn.Clean := by
    intro message listed
    simp only [mergedToolTurn, List.mem_cons, List.not_mem_nil, or_false] at listed
    rcases listed with rfl | rfl
    · exact ⟨by simp, ⟨by decide, by decide⟩⟩
    · refine ⟨?_, ⟨by decide, by decide⟩⟩
      intro tool isTool
      rw [List.mem_singleton.mp isTool]
      exact ⟨by decide, by decide⟩
  exact ⟨clean, clean⟩

/-- The key does not separate a turn that loses its tools from one that keeps them. -/
theorem Turn.separatedFrom_fails :
    (mergedToolTurn.Clean ∧ keptThinkingTurn.Clean) ∧
      (mergedToolTurn.KnownEffort ∧ keptThinkingTurn.KnownEffort) ∧
        mergedToolTurn.key = keptThinkingTurn.key ∧
          encoderDropThinking mergedToolTurn.messages mergedToolTurn.options ≠
            encoderDropThinking keptThinkingTurn.messages
              keptThinkingTurn.options ∧
            ¬ mergedToolTurn.SeparatedFrom keptThinkingTurn := by
  have same : mergedToolTurn.key = keptThinkingTurn.key := by decide
  have differ :
      encoderDropThinking mergedToolTurn.messages mergedToolTurn.options ≠
        encoderDropThinking keptThinkingTurn.messages
          keptThinkingTurn.options := by
    decide
  exact ⟨mergedToolTurn_clean, ⟨Or.inl rfl, Or.inl rfl⟩, same, differ,
    fun separated => differ (separated same).2⟩

/-- Two turns whose tools differ have different keys. -/
theorem Turn.separatedFrom_iff_kept :
    keptThinkingTurn.SeparatedFrom
      { keptThinkingTurn with messages := [] } :=
  (Turn.separatedFrom_iff mergedToolTurn_clean.2
    (fun _ listed => absurd listed (by simp)) (Or.inl rfl) (Or.inl rfl)).mpr
    fun loses => by
      rcases loses.2 with ⟨lost, -⟩ | ⟨lost, -⟩
      · exact absurd lost.1 (by decide)
      · exact absurd lost.1 (by decide)

end Aeon.Runtime
