import Aeon.ConversationSeam
import Aeon.Tokenizer

namespace Aeon.Text

/-!
# The stream decoder

A reply arrives as tokens, and a token may end inside a code point.  `Utf8Chunker`
emits complete code points and holds the tail; `Dsv4StreamDecoder` decodes each
token and splits the reply at the thinking-end token into a reasoning and a
content channel, with one chunker for each.
-/

namespace Utf8Chunker

/-- `sequence_length`; zero for a byte that leads nothing. -/
def sequenceLength (lead : UInt8) : Nat :=
  if 0xc2 ≤ lead ∧ lead ≤ 0xdf then 2
  else if 0xe0 ≤ lead ∧ lead ≤ 0xef then 3
  else if 0xf0 ≤ lead ∧ lead ≤ 0xf4 then 4
  else 0

/-- `continuation_ok`. -/
def continuationOk
    (lead : UInt8)
    (place : Nat)
    (byte : UInt8) : Bool :=
  if 1 < place then 0x80 ≤ byte && byte ≤ 0xbf
  else if lead = 0xe0 then 0xa0 ≤ byte && byte ≤ 0xbf
  else if lead = 0xed then 0x80 ≤ byte && byte ≤ 0x9f
  else if lead = 0xf0 then 0x90 ≤ byte && byte ≤ 0xbf
  else if lead = 0xf4 then 0x80 ≤ byte && byte ≤ 0x8f
  else 0x80 ≤ byte && byte ≤ 0xbf

/-- U+FFFD. -/
def replacement : Bytes :=
  [0xef, 0xbf, 0xbd]

/-- How the bytes after a lead byte continue it. -/
inductive Continuation where
  | complete
  | incomplete
  | invalid
  deriving Repr, DecidableEq

/-- The continuation loop of `push`, with `count` bytes to go. -/
def continuation
    (lead : UInt8) :
    Nat → Nat → Bytes → Continuation
  | _, 0, _ => .complete
  | _, _ + 1, [] => .incomplete
  | place, count + 1, byte :: rest =>
    if continuationOk lead place byte then
      continuation lead (place + 1) count rest
    else
      .invalid

/-- The loop of `push`: what is emitted and what is held. -/
def scan : Nat → Bytes → Bytes × Bytes
  | 0, buffer => ([], buffer)
  | _ + 1, [] => ([], [])
  | rounds + 1, lead :: rest =>
    if lead < 0x80 then
      let (output, held) := scan rounds rest
      (lead :: output, held)
    else if sequenceLength lead = 0 then
      let (output, held) := scan rounds rest
      (replacement ++ output, held)
    else
      match continuation lead 1 (sequenceLength lead - 1) rest with
      | .invalid =>
        let (output, held) := scan rounds rest
        (replacement ++ output, held)
      | .incomplete => ([], lead :: rest)
      | .complete =>
        let (output, held) :=
          scan rounds ((lead :: rest).drop (sequenceLength lead))
        ((lead :: rest).take (sequenceLength lead) ++ output, held)

/-- `Utf8Chunker::push`, from the held bytes. -/
def push (held text : Bytes) : Bytes × Bytes :=
  scan (held ++ text).length (held ++ text)

/-- `Utf8Chunker::flush`. -/
def flush (held : Bytes) : Bytes :=
  if held = [] then [] else replacement

/-! ## Valid text passes unchanged -/

/-- One well-formed sequence. -/
def WellFormed (unit : Bytes) : Prop :=
  match unit with
  | [] => False
  | lead :: rest =>
    if lead < 0x80 then rest = []
    else
      sequenceLength lead ≠ 0 ∧
        rest.length = sequenceLength lead - 1 ∧
        continuation lead 1 (sequenceLength lead - 1) rest = .complete

/-- Valid UTF-8: well-formed sequences one after another. -/
inductive ValidUtf8 : Bytes → Prop where
  | nil : ValidUtf8 []
  | cons
      {unit rest : Bytes}
      (head : WellFormed unit)
      (tail : ValidUtf8 rest) :
      ValidUtf8 (unit ++ rest)

theorem continuation_append
    {lead : UInt8}
    {place count : Nat}
    {bytes : Bytes}
    (complete : continuation lead place count bytes = .complete)
    (more : Bytes) :
    continuation lead place count (bytes ++ more) = .complete := by
  induction count generalizing place bytes with
  | zero =>
    rfl
  | succ count ih =>
    cases bytes with
    | nil =>
      cases complete
    | cons byte rest =>
      simp only [List.cons_append, continuation] at complete ⊢
      split at complete
      · next allowed =>
          rw [if_pos allowed]
          exact ih complete
      · cases complete

theorem continuation_truncated
    {lead : UInt8}
    {place count : Nat}
    {bytes more : Bytes}
    (complete : continuation lead place count (bytes ++ more) = .complete)
    (short : bytes.length < count) :
    continuation lead place count bytes = .incomplete := by
  induction count generalizing place bytes with
  | zero =>
    cases short
  | succ count ih =>
    cases bytes with
    | nil =>
      rfl
    | cons byte rest =>
      simp only [List.cons_append, continuation] at complete ⊢
      split at complete
      · next allowed =>
          rw [if_pos allowed]
          exact ih complete
            (Nat.lt_of_succ_lt_succ short)
      · cases complete

theorem scan_unit
    {unit : Bytes}
    (wellFormed : WellFormed unit)
    (rounds : Nat)
    (rest : Bytes) :
    scan (rounds + 1) (unit ++ rest) =
      (unit ++ (scan rounds rest).1, (scan rounds rest).2) := by
  cases unit with
  | nil =>
    cases wellFormed
  | cons lead tail =>
    simp only [WellFormed] at wellFormed
    split at wellFormed
    · next ascii =>
        subst wellFormed
        simp [scan, ascii]
    · next wide =>
        obtain ⟨leads, length, complete⟩ := wellFormed
        have whole : sequenceLength lead = (lead :: tail).length := by
          rw [List.length_cons, length]
          omega
        have continued := continuation_append complete rest
        simp only [List.cons_append, scan, if_neg wide, if_neg leads,
          continued]
        rw [whole, ← List.cons_append, List.drop_left, List.take_left]
        rfl

theorem scan_truncated
    {buffer more : Bytes}
    (wellFormed : WellFormed (buffer ++ more))
    (started : buffer ≠ [])
    (short : more ≠ [])
    (rounds : Nat) :
    scan (rounds + 1) buffer = ([], buffer) := by
  cases buffer with
  | nil =>
    exact absurd rfl started
  | cons lead tail =>
    simp only [List.cons_append, WellFormed] at wellFormed
    split at wellFormed
    · exact absurd (List.append_eq_nil_iff.mp wellFormed).2 short
    · next wide =>
        obtain ⟨leads, length, complete⟩ := wellFormed
        have longer := List.length_pos_iff.mpr short
        rw [List.length_append] at length
        have incomplete := continuation_truncated complete (by omega)
        simp only [scan, if_neg wide, if_neg leads, incomplete]

/--
Scanning a prefix of valid text emits and holds exactly what it was given.
Something is held only when more is to come.
-/
theorem scan_valid
    {buffer more : Bytes}
    (valid : ValidUtf8 (buffer ++ more))
    (rounds : Nat)
    (enough : buffer.length ≤ rounds) :
    (scan rounds buffer).1 ++ (scan rounds buffer).2 = buffer ∧
      ValidUtf8 ((scan rounds buffer).2 ++ more) ∧
      ((scan rounds buffer).2 = [] ∨ more ≠ []) := by
  induction rounds generalizing buffer with
  | zero =>
    obtain rfl : buffer = [] := List.length_eq_zero_iff.mp (by omega)
    exact ⟨rfl, valid, Or.inl rfl⟩
  | succ rounds ih =>
    by_cases started : buffer = []
    · subst started
      exact ⟨rfl, valid, Or.inl rfl⟩
    · generalize shape : buffer ++ more = text at valid
      cases valid with
      | nil =>
        exact absurd (List.append_eq_nil_iff.mp shape).1 started
      | @cons unit rest head tail =>
        have unitNonempty : unit ≠ [] := by
          rintro rfl
          exact head
        rcases List.append_eq_append_iff.mp shape with
          ⟨left, unitEq, moreEq⟩ | ⟨left, bufferEq, restEq⟩
        · -- The buffer ends inside the first sequence, or with it.
          by_cases ended : left = []
          · subst ended
            obtain rfl : buffer = unit := by simpa using unitEq.symm
            obtain rfl : more = rest := by simpa using moreEq
            have emitted := scan_unit head rounds []
            have nothing : scan rounds [] = ([], []) := by
              cases rounds <;> rfl
            rw [List.append_nil, nothing] at emitted
            rw [emitted]
            exact ⟨by simp, by simpa using tail, Or.inl rfl⟩
          · subst unitEq
            rw [scan_truncated head started ended]
            refine ⟨rfl, ?_, Or.inr ?_⟩
            · rw [shape]
              exact .cons head tail
            · rw [moreEq]
              exact fun empty =>
                ended (List.append_eq_nil_iff.mp empty).1
        · subst bufferEq
          rw [restEq] at tail
          have shorter : left.length ≤ rounds := by
            have positive := List.length_pos_iff.mpr unitNonempty
            rw [List.length_append] at enough
            omega
          obtain ⟨kept, stillValid, held⟩ :=
            ih tail shorter
          rw [scan_unit head]
          refine ⟨?_, stillValid, held⟩
          rw [List.append_assoc, kept]

end Utf8Chunker

/-- `Dsv4StreamDecoder`: the current channel and what each chunker holds. -/
structure StreamDecoder where
  channel : Channel
  reasoningHeld : Bytes := []
  contentHeld : Bytes := []
  deriving Repr, DecidableEq

namespace StreamDecoder

/-- The decoder of a fresh reply. -/
def start (thinking : Bool) : StreamDecoder :=
  { channel := if thinking then .reasoning else .content }

/-- What the current channel's chunker holds. -/
def held (decoder : StreamDecoder) : Bytes :=
  match decoder.channel with
  | .reasoning => decoder.reasoningHeld
  | .content => decoder.contentHeld

/-- The current channel's chunker with other bytes held. -/
def setHeld
    (decoder : StreamDecoder)
    (bytes : Bytes) : StreamDecoder :=
  match decoder.channel with
  | .reasoning => { decoder with reasoningHeld := bytes }
  | .content => { decoder with contentHeld := bytes }

/-- `emit`: no delta for an empty text. -/
def emitDelta
    (channel : Channel)
    (text : Bytes) : List TextDelta :=
  if text = [] then [] else [{ channel, text }]

variable (tokenizer : Tokenizer)

/-- `Dsv4StreamDecoder::push`. -/
def push
    (decoder : StreamDecoder)
    (id : Nat) : Except Bytes (List TextDelta × StreamDecoder) :=
  if id = tokenizer.eosTokenId then
    .ok ([], decoder)
  else if id = tokenizer.thinkingEndTokenId then
    .ok (emitDelta decoder.channel (Utf8Chunker.flush decoder.held),
      { decoder.setHeld [] with channel := .content })
  else do
    let text ← tokenizer.decode false [id]
    let (output, held) := Utf8Chunker.push decoder.held text
    .ok (emitDelta decoder.channel output, decoder.setHeld held)

/-- The pushes of a list of tokens. -/
def pushAll
    (tokenizer : Tokenizer) :
    StreamDecoder → List Nat → Except Bytes (List TextDelta × StreamDecoder)
  | decoder, [] => .ok ([], decoder)
  | decoder, id :: ids => do
      let (deltas, next) ← decoder.push tokenizer id
      let (others, last) ← pushAll tokenizer next ids
      .ok (deltas ++ others, last)

/-- `Dsv4StreamDecoder::finish`. -/
def finish (decoder : StreamDecoder) : List TextDelta :=
  emitDelta decoder.channel (Utf8Chunker.flush decoder.held)

/-- The text a list of deltas carries on a channel. -/
def channelText
    (channel : Channel)
    (deltas : List TextDelta) : Bytes :=
  (deltas.filter fun delta => delta.channel = channel).flatMap (·.text)

/-- The deltas of a whole reply. -/
def replyDeltas
    (thinking : Bool)
    (ids : List Nat) : Except Bytes (List TextDelta) := do
  let (deltas, decoder) ← pushAll tokenizer (start thinking) ids
  .ok (deltas ++ decoder.finish)

@[simp]
theorem setHeld_channel
    (decoder : StreamDecoder)
    (bytes : Bytes) :
    (decoder.setHeld bytes).channel = decoder.channel := by
  unfold setHeld
  split <;> rfl

@[simp]
theorem setHeld_held
    (decoder : StreamDecoder)
    (bytes : Bytes) :
    (decoder.setHeld bytes).held = bytes := by
  obtain ⟨channel, reasoning, content⟩ := decoder
  cases channel <;> rfl

@[simp]
theorem setHeld_setHeld
    (decoder : StreamDecoder)
    (first second : Bytes) :
    (decoder.setHeld first).setHeld second = decoder.setHeld second := by
  obtain ⟨channel, reasoning, content⟩ := decoder
  cases channel <;> rfl

@[simp]
theorem setHeld_same (decoder : StreamDecoder) :
    decoder.setHeld decoder.held = decoder := by
  obtain ⟨channel, reasoning, content⟩ := decoder
  cases channel <;> rfl

@[simp]
theorem channelText_append
    (channel : Channel)
    (front back : List TextDelta) :
    channelText channel (front ++ back) =
      channelText channel front ++ channelText channel back := by
  simp [channelText]

@[simp]
theorem channelText_emitDelta
    (channel : Channel)
    (text : Bytes) :
    channelText channel (emitDelta channel text) = text := by
  unfold emitDelta
  split
  · next empty => simp [channelText, empty]
  · simp [channelText]

theorem channelText_emitDelta_other
    {channel other : Channel}
    (different : other ≠ channel)
    (text : Bytes) :
    channelText other (emitDelta channel text) = [] := by
  unfold emitDelta
  split
  · rfl
  · simp [channelText, different.symm]

/--
Tokens without an EOS or a marker whose text is valid put exactly that text on
the current channel and leave nothing held.
-/
theorem pushAll_valid
    {tokenizer : Tokenizer}
    (decoder : StreamDecoder)
    {ids : List Nat}
    {text : Bytes}
    (unended : tokenizer.eosTokenId ∉ ids)
    (unmarked : tokenizer.thinkingEndTokenId ∉ ids)
    (decoded : tokenizer.decode false ids = .ok text)
    (valid : Utf8Chunker.ValidUtf8 (decoder.held ++ text))
    (awaited : decoder.held = [] ∨ text ≠ []) :
    ∃ deltas,
      pushAll tokenizer decoder ids = .ok (deltas, decoder.setHeld []) ∧
        channelText decoder.channel deltas = decoder.held ++ text ∧
        ∀ other,
          other ≠ decoder.channel → channelText other deltas = [] := by
  induction ids generalizing decoder text with
  | nil =>
    obtain rfl : [] = text := Except.ok.inj decoded
    have nothing : decoder.held = [] := by simpa using awaited
    have same : decoder.setHeld [] = decoder := by
      rw [← nothing, setHeld_same]
    exact ⟨[], by rw [same]; rfl, by simp [nothing, channelText],
      fun _ _ => rfl⟩
  | cons id ids ih =>
    obtain ⟨piece, pieceDecoded, afterPiece⟩ := bind_eq_ok.mp decoded
    obtain ⟨rest, restDecoded, joined⟩ := bind_eq_ok.mp afterPiece
    obtain rfl := Except.ok.inj joined
    have idNotEnd := List.ne_of_not_mem_cons unended
    have idNotMark := List.ne_of_not_mem_cons unmarked
    rw [← List.append_assoc] at valid
    obtain ⟨kept, stillValid, stillAwaited⟩ :=
      Utf8Chunker.scan_valid valid _ (Nat.le_refl _)
    obtain ⟨deltas, pushed, onChannel, elsewhere⟩ :=
      ih
        (decoder.setHeld (Utf8Chunker.push decoder.held piece).2)
        (List.not_mem_of_not_mem_cons unended)
        (List.not_mem_of_not_mem_cons unmarked) restDecoded
        (by rw [setHeld_held]; exact stillValid)
        (by rw [setHeld_held]; exact stillAwaited)
    have alone : tokenizer.decode false [id] = .ok piece := by
      simp [Tokenizer.decode, pieceDecoded]
    have stepped :
        decoder.push tokenizer id =
          .ok (emitDelta decoder.channel
              (Utf8Chunker.push decoder.held piece).1,
            decoder.setHeld (Utf8Chunker.push decoder.held piece).2) := by
      simp [push, Ne.symm idNotEnd, Ne.symm idNotMark, alone]
    refine ⟨emitDelta decoder.channel
      (Utf8Chunker.push decoder.held piece).1 ++ deltas, ?_, ?_, ?_⟩
    · rw [pushAll, stepped, ok_bind]
      dsimp only
      rw [pushed, ok_bind]
      simp only [setHeld_setHeld]
    · rw [setHeld_channel, setHeld_held] at onChannel
      rw [channelText_append, channelText_emitDelta, onChannel,
        ← List.append_assoc, ← List.append_assoc]
      exact congrArg (· ++ rest) kept
    · intro other different
      rw [setHeld_channel] at elsewhere
      rw [channelText_append, elsewhere other different,
        channelText_emitDelta_other different, List.append_nil]

theorem pushAll_append
    (decoder : StreamDecoder)
    (front back : List Nat) :
    pushAll tokenizer decoder (front ++ back) = (do
      let (deltas, middle) ← pushAll tokenizer decoder front
      let (others, last) ← pushAll tokenizer middle back
      .ok (deltas ++ others, last)) := by
  induction front generalizing decoder with
  | nil =>
    cases pushed : pushAll tokenizer decoder back with
    | error error => simp [pushAll, pushed]
    | ok result => simp [pushAll, pushed]
  | cons id front ih =>
    simp only [List.cons_append, pushAll, ih, bind_assoc,
      ok_bind, List.append_assoc]

/-- A trailing EOS changes nothing. -/
theorem pushAll_eos
    (decoder : StreamDecoder)
    (ids : List Nat) :
    pushAll tokenizer decoder (ids ++ [tokenizer.eosTokenId]) =
      pushAll tokenizer decoder ids := by
  rw [pushAll_append]
  cases pushed : pushAll tokenizer decoder ids with
  | error error => rfl
  | ok result => simp [pushAll, push]

/--
A reply's ids and the two texts they carry: a thinking reply has one marker, with
the reasoning before it and the content after it; a chat reply has none.
-/
def BodySplit
    (thinking : Bool)
    (ids : List Nat)
    (reasoning content : Bytes) : Prop :=
  if thinking then
    ∃ before after,
      ids = before ++ tokenizer.thinkingEndTokenId :: after ∧
        tokenizer.thinkingEndTokenId ∉ before ∧
        tokenizer.thinkingEndTokenId ∉ after ∧
        tokenizer.decode false before = .ok reasoning ∧
        tokenizer.decode false after = .ok content
  else
    tokenizer.thinkingEndTokenId ∉ ids ∧
      reasoning = [] ∧
      tokenizer.decode false ids = .ok content

theorem pushAll_split
    {tokenizer : Tokenizer}
    {thinking : Bool}
    {ids : List Nat}
    {reasoning content : Bytes}
    (unended : tokenizer.eosTokenId ∉ ids)
    (split : BodySplit tokenizer thinking ids reasoning content)
    (reasoningValid : Utf8Chunker.ValidUtf8 reasoning)
    (contentValid : Utf8Chunker.ValidUtf8 content) :
    ∃ deltas decoder,
      pushAll tokenizer (start thinking) ids = .ok (deltas, decoder) ∧
        decoder.finish = [] ∧
        channelText .reasoning deltas = reasoning ∧
        channelText .content deltas = content := by
  unfold BodySplit at split
  split at split
  · next asked =>
      subst asked
      obtain ⟨before, after, rfl, unmarkedBefore, unmarkedAfter,
        beforeDecoded, afterDecoded⟩ := split
      simp only [List.mem_append, List.mem_cons, not_or] at unended
      obtain ⟨unendedBefore, distinct, unendedAfter⟩ := unended
      obtain ⟨reasoned, pushedBefore, onReasoning, noContent⟩ :=
        pushAll_valid (start true) unendedBefore unmarkedBefore
          beforeDecoded reasoningValid (Or.inl rfl)
      obtain ⟨contented, pushedAfter, onContent, noReasoning⟩ :=
        pushAll_valid { channel := .content } unendedAfter unmarkedAfter
          afterDecoded contentValid (Or.inl rfl)
      have marked :
          push tokenizer ((start true).setHeld [])
              tokenizer.thinkingEndTokenId =
            .ok ([], { channel := .content }) := by
        simp [push, Ne.symm distinct, start, setHeld, held, emitDelta,
          Utf8Chunker.flush]
      refine ⟨reasoned ++ contented, { channel := .content }, ?_, rfl,
        ?_, ?_⟩
      · rw [pushAll_append, pushedBefore, ok_bind]
        simp only [pushAll, marked, ok_bind, pushedAfter, List.nil_append]
        rfl
      · rw [channelText_append, noReasoning .reasoning (by decide),
          List.append_nil]
        exact onReasoning
      · rw [channelText_append, noContent .content (by decide)]
        exact onContent
  · next unasked =>
      obtain rfl : thinking = false := by simpa using unasked
      obtain ⟨unmarked, rfl, decoded⟩ := split
      obtain ⟨deltas, pushed, onContent, noReasoning⟩ :=
        pushAll_valid (start false) unended unmarked decoded contentValid
          (Or.inl rfl)
      exact ⟨deltas, _, pushed, rfl, noReasoning .reasoning (by decide),
        onContent⟩

end StreamDecoder

end Aeon.Text
