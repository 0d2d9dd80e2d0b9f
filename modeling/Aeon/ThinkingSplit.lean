import Aeon.PromptContinuation
import Aeon.Utf8Holdback

namespace Aeon.Text

open List (append_nil cons_append flatten_cons mem_cons nil_append)
open StreamDecoder (channelText channelText_append emitDelta held push pushAll
  pushAll_append pushAll_valid setHeld)

/-!
# Two ways to split a thinking reply

The stream decoder leaves the reasoning at the first thinking-end token and drops every
later one; `strip_thinking` cuts the decoded text behind the last place where the
marker is spelled.  The two agree on a reply exactly when the text behind the first
marker token is the text behind the last spelling.
-/

/-! ## The batch split -/

/-- `std::string::rfind`. -/
def rfind (pattern : Bytes) : Bytes → Option Nat
  | [] => if pattern = [] then some 0 else none
  | byte :: rest =>
    match rfind pattern rest with
    | some position => some (position + 1)
    | none => if pattern <+: byte :: rest then some 0 else none

/-- `V4Engine::strip_thinking`. -/
def stripThinking
    (tokenizer : Tokenizer)
    (text : Bytes) : Except Bytes Bytes := do
  let marker ← tokenizer.decode false [tokenizer.thinkingEndTokenId]
  if marker = [] then
    .ok text
  else
    match rfind marker text with
    | none => .ok text
    | some position => .ok (text.drop (position + marker.length))

theorem rfind_none
    {pattern text : Bytes}
    (missing : rfind pattern text = none)
    (position : Nat) :
    ¬ pattern <+: text.drop position := by
  induction text generalizing position with
  | nil =>
    rw [rfind] at missing
    split at missing
    · exact nomatch missing
    next some_ =>
      rw [List.drop_nil]
      exact fun shorter => some_ (List.prefix_nil.mp shorter)
  | cons byte rest ih =>
    rw [rfind] at missing
    split at missing
    · exact nomatch missing
    next innerMissing =>
      split at missing
      · exact nomatch missing
      next absent =>
        cases position with
        | zero => exact absent
        | succ position => exact ih innerMissing position

theorem rfind_some
    {pattern text : Bytes}
    {position : Nat}
    (found : rfind pattern text = some position) :
    pattern <+: text.drop position ∧
      (pattern ≠ [] → ∀ later, position < later → ¬ pattern <+: text.drop later) := by
  induction text generalizing position with
  | nil =>
    rw [rfind] at found
    split at found
    next empty =>
      obtain rfl := Option.some.inj found
      exact ⟨empty ▸ List.nil_prefix, fun some_ => absurd empty some_⟩
    next => exact nomatch found
  | cons byte rest ih =>
    rw [rfind] at found
    split at found
    next inner innerFound =>
      obtain rfl := Option.some.inj found
      obtain ⟨here, behind⟩ := ih innerFound
      refine ⟨here, fun some_ later after => ?_⟩
      cases later with
      | zero => exact absurd after (Nat.not_lt_zero _)
      | succ later => exact behind some_ later (Nat.lt_of_succ_lt_succ after)
    next missing =>
      split at found
      next here =>
        obtain rfl := Option.some.inj found
        refine ⟨here, fun some_ later after => ?_⟩
        cases later with
        | zero => exact absurd after (Nat.lt_irrefl _)
        | succ later => exact rfind_none missing later
      next => exact nomatch found
theorem rfind_append
    {pattern back : Bytes}
    {position : Nat}
    (front : Bytes)
    (found : rfind pattern back = some position) :
    rfind pattern (front ++ back) = some (front.length + position) := by
  induction front with
  | nil => rw [nil_append, List.length_nil, Nat.zero_add, found]
  | cons byte rest ih =>
    rw [cons_append, rfind, ih, List.length_cons]
    simp only [Option.some.injEq]
    omega

theorem rfind_prefixed
    (pattern rest : Bytes) :
    ∃ position, rfind pattern (pattern ++ rest) = some position := by
  cases found : rfind pattern (pattern ++ rest) with
  | some position => exact ⟨position, rfl⟩
  | none =>
    exact absurd (List.prefix_append pattern rest)
      (rfind_none found 0)

/-! ## The segments of a reply -/

/-- The texts between the markers of a list of ids. -/
def SegmentTexts
    (tokenizer : Tokenizer)
    (ids : List Nat)
    (texts : List Bytes) : Prop :=
  List.Forall₂ (fun segment text => tokenizer.decode false segment = .ok text)
    (ids.splitOn tokenizer.thinkingEndTokenId) texts

section Segments

variable {tokenizer : Tokenizer}

variable {ids : List Nat}
variable {texts : List Bytes}

/-- Without a marker there is one segment. -/
theorem SegmentTexts.unmarked
    (segments : SegmentTexts tokenizer ids texts)
    (none : tokenizer.thinkingEndTokenId ∉ ids) :
    ∃ text, texts = [text] ∧ tokenizer.decode false ids = .ok text := by
  rw [SegmentTexts, List.splitOn_eq_singleton none] at segments
  cases segments with
  | cons decoded rest =>
    cases rest
    exact ⟨_, rfl, decoded⟩

theorem SegmentTexts.marked
    {before after : List Nat}
    (segments : SegmentTexts tokenizer
      (before ++ tokenizer.thinkingEndTokenId :: after) texts)
    (first : tokenizer.thinkingEndTokenId ∉ before) :
    ∃ text rest, texts = text :: rest ∧ tokenizer.decode false before = .ok text ∧
      SegmentTexts tokenizer after rest := by
  rw [SegmentTexts, List.splitOn_append_cons_self_of_not_mem first] at segments
  cases segments with
  | cons decoded rest => exact ⟨_, _, rfl, decoded, rest⟩

theorem SegmentTexts.ne_nil
    (segments : SegmentTexts tokenizer ids texts) :
    texts ≠ [] := by
  rintro rfl
  exact List.splitOn_ne_nil _ _ (List.forall₂_nil_right_iff.mp segments)

theorem SegmentTexts.decode
    {ids : List Nat}
    {texts : List Bytes}
    {spelled : Bytes}
    (named : tokenizer.decode false [tokenizer.thinkingEndTokenId] = .ok spelled)
    (segments : SegmentTexts tokenizer ids texts) :
    tokenizer.decode false ids = .ok (spelled.intercalate texts) := by
  induction texts generalizing ids with
  | nil => exact absurd rfl segments.ne_nil
  | cons text rest ih =>
    by_cases marked : tokenizer.thinkingEndTokenId ∈ ids
    · obtain ⟨before, after, rfl, first⟩ := List.eq_append_cons_of_mem marked
      obtain ⟨_, _, shape, decoded, later⟩ := segments.marked first
      obtain ⟨rfl, rfl⟩ := List.cons.inj shape
      have afterDecoded := ih later
      obtain ⟨second, others, rfl⟩ := List.exists_cons_of_ne_nil later.ne_nil
      rw [show before ++ tokenizer.thinkingEndTokenId :: after =
          before ++ ([tokenizer.thinkingEndTokenId] ++ after) by rfl,
        Tokenizer.decode_append, Tokenizer.decode_append, decoded, named, afterDecoded]
      simp only [ok_bind, List.intercalate, List.intersperse_cons_cons, flatten_cons]
    · obtain ⟨_, shape, decoded⟩ := segments.unmarked marked
      obtain ⟨rfl, rfl⟩ := List.cons.inj shape
      rw [decoded]
      simp [List.intercalate]

theorem SegmentTexts.stream
    (unended : tokenizer.eosTokenId ∉ ids)
    (segments : SegmentTexts tokenizer ids texts)
    (valid : ∀ text ∈ texts, Utf8.Valid text) :
    ∃ deltas,
      pushAll tokenizer { channel := .content } ids =
          .ok (deltas, { channel := .content }) ∧
        channelText .content deltas = texts.flatten ∧
        channelText .reasoning deltas = [] := by
  induction texts generalizing ids with
  | nil => exact absurd rfl segments.ne_nil
  | cons text rest ih =>
    obtain ⟨textValid, restValid⟩ := List.forall_mem_cons.mp valid
    have wellFormed := Utf8Chunker.validUtf8_of_valid textValid
    by_cases marked : tokenizer.thinkingEndTokenId ∈ ids
    · obtain ⟨before, after, rfl, first⟩ := List.eq_append_cons_of_mem marked
      obtain ⟨_, _, shape, decoded, later⟩ := segments.marked first
      obtain ⟨rfl, rfl⟩ := List.cons.inj shape
      simp only [List.mem_append, mem_cons, not_or] at unended
      obtain ⟨unendedBefore, distinct, unendedAfter⟩ := unended
      obtain ⟨front, pushedFront, onContent, elsewhere⟩ :=
        pushAll_valid { channel := .content } unendedBefore first decoded
          wellFormed (.inl rfl)
      obtain ⟨back, pushedBack, backContent, backReasoning⟩ :=
        ih unendedAfter later restValid
      have marker : push tokenizer
          (setHeld { channel := .content } [])
          tokenizer.thinkingEndTokenId = .ok ([], { channel := .content }) := by
        simp [push, Ne.symm distinct, setHeld,
          held, emitDelta, Utf8Chunker.flush]
      refine ⟨front ++ back, ?_, ?_, ?_⟩
      · rw [pushAll_append, pushedFront, ok_bind]
        simp only [pushAll, marker, ok_bind, pushedBack, nil_append]
      · rw [channelText_append, backContent, onContent, flatten_cons]
        rfl
      · rw [channelText_append, backReasoning,
          elsewhere .reasoning (by decide), append_nil]
    · obtain ⟨_, shape, decoded⟩ := segments.unmarked marked
      obtain ⟨rfl, rfl⟩ := List.cons.inj shape
      obtain ⟨deltas, pushed, onContent, elsewhere⟩ :=
        pushAll_valid { channel := .content } unended marked decoded
          wellFormed (.inl rfl)
      refine ⟨deltas, pushed, ?_, elsewhere .reasoning (by decide)⟩
      rw [onContent, flatten_cons, List.flatten_nil, append_nil]
      rfl

theorem SegmentTexts.replyDeltas
    (endsOnce : tokenizer.eosTokenId ∉ ids.dropLast)
    (marked : tokenizer.thinkingEndTokenId ∈ withoutEos tokenizer.eosTokenId ids)
    (segments : SegmentTexts tokenizer (withoutEos tokenizer.eosTokenId ids) texts)
    (valid : ∀ text ∈ texts, Utf8.Valid text) :
    ∃ reasoning rest deltas, texts = reasoning :: rest ∧ rest ≠ [] ∧
      StreamDecoder.replyDeltas tokenizer true ids = .ok deltas ∧
      channelText .reasoning deltas = reasoning ∧
      channelText .content deltas = rest.flatten := by
  have unended := eos_not_mem_withoutEos endsOnce
  have body : pushAll tokenizer (.start true) ids =
      pushAll tokenizer (.start true)
        (withoutEos tokenizer.eosTokenId ids) := by
    rcases withoutEos_cases tokenizer.eosTokenId ids with same | ended
    · exact congrArg _ same
    · conv_lhs => rw [ended]
      exact StreamDecoder.pushAll_eos _ _ _
  obtain ⟨before, after, shape, first⟩ := List.eq_append_cons_of_mem marked
  rw [shape] at segments unended body
  obtain ⟨reasoning, rest, rfl, decoded, later⟩ := segments.marked first
  obtain ⟨reasoningValid, restValid⟩ := List.forall_mem_cons.mp valid
  simp only [List.mem_append, mem_cons, not_or] at unended
  obtain ⟨unendedBefore, distinct, unendedAfter⟩ := unended
  obtain ⟨front, pushedFront, onReasoning, elsewhere⟩ :=
    pushAll_valid (.start true) unendedBefore first decoded
      (Utf8Chunker.validUtf8_of_valid reasoningValid) (.inl rfl)
  obtain ⟨back, pushedBack, onContent, noReasoning⟩ :=
    later.stream unendedAfter restValid
  have marker : push tokenizer
      (setHeld (.start true) []) tokenizer.thinkingEndTokenId =
        .ok ([], { channel := .content }) := by
    simp [push, Ne.symm distinct, StreamDecoder.start,
      setHeld, held, emitDelta,
      Utf8Chunker.flush]
  refine ⟨reasoning, rest, front ++ back, rfl, later.ne_nil, ?_, ?_, ?_⟩
  · rw [StreamDecoder.replyDeltas, body, pushAll_append, pushedFront, ok_bind]
    simp only [pushAll, marker, ok_bind, pushedBack, nil_append]
    exact congrArg _ (append_nil _)
  · rw [channelText_append, noReasoning, append_nil]
    exact onReasoning
  · rw [channelText_append, onContent, elsewhere .content (by decide),
      nil_append]

end Segments

/-! ## Where the two agree -/

theorem intercalate_concat
    (separator last : Bytes)
    {texts : List Bytes}
    (some_ : texts ≠ []) :
    separator.intercalate (texts ++ [last]) =
      separator.intercalate texts ++ (separator ++ last) := by
  induction texts with
  | nil => exact absurd rfl some_
  | cons text rest ih =>
    cases rest with
    | nil => simp [List.intercalate]
    | cons second others =>
      have inner := ih (List.cons_ne_nil _ _)
      simp only [List.intercalate, cons_append, List.intersperse_cons_cons,
        flatten_cons] at inner ⊢
      rw [inner, List.append_assoc, List.append_assoc]

theorem intercalate_nil
    (texts : List Bytes) :
    List.intercalate [] texts = texts.flatten := by
  induction texts with
  | nil => rfl
  | cons text rest ih =>
    cases rest with
    | nil => rfl
    | cons second others =>
      simp only [List.intercalate, List.intersperse_cons_cons, flatten_cons,
        nil_append] at ih ⊢
      rw [ih]

theorem stripThinking_intercalate
    {tokenizer : Tokenizer}
    {spelled last : Bytes}
    {texts : List Bytes}
    (named : tokenizer.decode false [tokenizer.thinkingEndTokenId] = .ok spelled)
    (visible : spelled ≠ [])
    (some_ : texts ≠ []) :
    ∃ position, rfind spelled (spelled ++ last) = some position ∧
      position ≤ last.length ∧
      stripThinking tokenizer (spelled.intercalate (texts ++ [last])) =
        .ok (last.drop position) := by
  obtain ⟨position, found⟩ := rfind_prefixed spelled last
  have whole := rfind_append (spelled.intercalate texts) found
  have fits := (rfind_some found).1.length_le
  rw [List.length_drop, List.length_append] at fits
  have positive := List.length_pos_iff.mpr visible
  refine ⟨position, found, by omega, ?_⟩
  rw [stripThinking, named, ok_bind, if_neg visible, intercalate_concat _ _ some_, whole]
  simp only
  rw [Nat.add_assoc, ← List.drop_drop, List.drop_left, Nat.add_comm, ← List.drop_drop,
    List.drop_left]

/--
A reply on which the splits agree.  A tokenizer that spells the marker as nothing makes
the batch split keep everything.
-/
def SplitsAgree
    (spelled : Bytes)
    (texts : List Bytes) : Prop :=
  if spelled = [] then
    texts.head? = some []
  else
    (∀ text ∈ texts.tail.dropLast, text = []) ∧
      ∀ position, 0 < position →
        ¬ spelled <+: (spelled ++ texts.getLastD []).drop position

/--
On a thinking reply whose segments are valid UTF-8, the content deltas are what the
batch split leaves and the reasoning deltas what stands before the first marker, if and
only if nothing stands between two markers and the marker's spelling does not come
again behind the last one.
-/
theorem streamed_split_agrees_iff
    {tokenizer : Tokenizer}
    {ids : List Nat}
    {texts : List Bytes}
    {spelled : Bytes}
    (endsOnce : tokenizer.eosTokenId ∉ ids.dropLast)
    (marked : tokenizer.thinkingEndTokenId ∈ withoutEos tokenizer.eosTokenId ids)
    (named : tokenizer.decode false [tokenizer.thinkingEndTokenId] = .ok spelled)
    (segments : SegmentTexts tokenizer (withoutEos tokenizer.eosTokenId ids) texts)
    (valid : ∀ text ∈ texts, Utf8.Valid text) :
    ∃ deltas decoded,
      StreamDecoder.replyDeltas tokenizer true ids = .ok deltas ∧
        tokenizer.decode false (withoutEos tokenizer.eosTokenId ids) = .ok decoded ∧
        ((stripThinking tokenizer decoded =
              .ok (channelText .content deltas) ∧
            texts.head? = some (channelText .reasoning deltas)) ↔
          SplitsAgree spelled texts) := by
  have whole := segments.decode named
  obtain ⟨reasoning, rest, deltas, rfl, some_, streamed, onReasoning, onContent⟩ :=
    segments.replyDeltas endsOnce marked valid
  refine ⟨deltas, _, streamed, whole, ?_⟩
  rw [onReasoning, onContent, List.head?_cons, and_iff_left rfl]
  unfold SplitsAgree
  obtain ⟨between, last, rfl⟩ := (List.eq_nil_or_concat' rest).resolve_left some_
  split_ifs with invisible
  · -- The marker is spelled as nothing, so the batch split keeps the whole text.
    subst invisible
    rw [stripThinking, named, ok_bind, if_pos rfl, Except.ok.injEq]
    rw [intercalate_nil, flatten_cons, List.head?_cons, Option.some.injEq]
    exact List.append_left_eq_self
  · obtain ⟨position, found, fits, stripped⟩ :=
      @stripThinking_intercalate tokenizer spelled last (reasoning :: between) named
        invisible (List.cons_ne_nil _ _)
    rw [← cons_append, stripped, Except.ok.injEq]
    simp only [cons_append, List.tail_cons, List.dropLast_concat]
    have behind : (reasoning :: (between ++ [last])).getLastD [] = last := by
      rw [← cons_append, List.getLastD_concat]
    rw [behind, List.flatten_append, List.flatten_singleton]
    constructor
    · intro same
      have lengths := congrArg List.length same
      rw [List.length_drop, List.length_append] at lengths
      obtain rfl : position = 0 := by omega
      have nothing : between.flatten = [] := List.length_eq_zero_iff.mp (by omega)
      exact ⟨List.flatten_eq_nil_iff.mp nothing, (rfind_some found).2 invisible⟩
    · rintro ⟨nothing, once⟩
      have start : position = 0 := by
        refine Nat.eq_zero_of_not_pos fun positive => ?_
        exact once position positive (rfind_some found).1
      rw [List.flatten_eq_nil_iff.mpr nothing, start]
      rfl

/-- One marker: `a` is the reasoning and `b` the content either way. -/
theorem smallTokenizer_splits_agree :
    ∃ deltas decoded,
      StreamDecoder.replyDeltas smallTokenizer true [8, 3, 9, 1] = .ok deltas ∧
        smallTokenizer.decode false [8, 3, 9] = .ok decoded ∧
        ((stripThinking smallTokenizer decoded =
              .ok (channelText .content deltas) ∧
            [bytes "a", bytes "b"].head? =
              some (channelText .reasoning deltas)) ↔
          SplitsAgree (bytes "</think>") [bytes "a", bytes "b"]) := by
  have named : smallTokenizer.decode false [3] = .ok (bytes "</think>") := by
    decide
  have a : smallTokenizer.decode false [8] = .ok (bytes "a") := by decide
  have b : smallTokenizer.decode false [9] = .ok (bytes "b") := by decide
  refine @streamed_split_agrees_iff smallTokenizer [8, 3, 9, 1] [bytes "a", bytes "b"]
    (bytes "</think>") (by decide) (by decide) named (.cons a (.cons b .nil)) ?_
  intro text listed
  simp only [mem_cons, List.not_mem_nil, or_false] at listed
  rcases listed with rfl | rfl
  · exact ⟨['a'], by decide⟩
  · exact ⟨['b'], by decide⟩

/-- Two markers: the stream keeps the `a` between them, the batch split drops it. -/
theorem smallTokenizer_splits_differ :
    ¬ ∀ (tokenizer : Tokenizer) (ids : List Nat) (texts : List Bytes),
      tokenizer.eosTokenId ∉ ids.dropLast →
      tokenizer.thinkingEndTokenId ∈ withoutEos tokenizer.eosTokenId ids →
      SegmentTexts tokenizer (withoutEos tokenizer.eosTokenId ids) texts →
      (∀ text ∈ texts, Utf8.Valid text) →
      ∃ deltas decoded,
        StreamDecoder.replyDeltas tokenizer true ids = .ok deltas ∧
          tokenizer.decode false (withoutEos tokenizer.eosTokenId ids) = .ok decoded ∧
          stripThinking tokenizer decoded =
            .ok (channelText .content deltas) ∧
          texts.head? = some (channelText .reasoning deltas) := by
  intro agree
  have a : smallTokenizer.decode false [8] = .ok (bytes "a") := by decide
  have b : smallTokenizer.decode false [9] = .ok (bytes "b") := by decide
  obtain ⟨deltas, decoded, streamed, whole, stripped, -⟩ :=
    agree smallTokenizer [8, 3, 8, 3, 9, 1] [bytes "a", bytes "a", bytes "b"] (by decide)
      (by decide) (.cons a (.cons a (.cons b .nil))) (by
        intro text listed
        simp only [mem_cons, List.not_mem_nil, or_false] at listed
        rcases listed with rfl | rfl | rfl
        · exact ⟨['a'], by decide⟩
        · exact ⟨['a'], by decide⟩
        · exact ⟨['b'], by decide⟩)
  have text : smallTokenizer.decode false [8, 3, 8, 3, 9] =
      .ok (bytes "a</think>a</think>b") := by
    decide
  have batch : stripThinking smallTokenizer (bytes "a</think>a</think>b") =
      .ok (bytes "b") := by
    decide
  have stream : StreamDecoder.replyDeltas smallTokenizer true [8, 3, 8, 3, 9, 1] =
      .ok [⟨.reasoning, bytes "a"⟩, ⟨.content, bytes "a"⟩, ⟨.content, bytes "b"⟩] := by
    decide
  obtain rfl := Except.ok.inj (streamed.symm.trans stream)
  obtain rfl := Except.ok.inj (whole.symm.trans text)
  exact absurd (stripped.symm.trans batch) (by decide)

end Aeon.Text
