import Aeon.Bytes
import Mathlib.Data.List.Sort

namespace Aeon.Text

/-!
# The tokenizer

`Dsv4Tokenizer` is a byte-level BPE over a loaded artifact.  Added tokens are cut
out of the text first, the longest that matches at an offset winning; what lies
between them is split into pretokens and merged by rank.  Decoding concatenates
the text of each id.
-/

namespace Tokenizer

/-! ## Code points -/

/-- The width of a UTF-8 sequence and the payload of its first byte. -/
def leadByte (byte : UInt8) : Option (Nat × Nat) :=
  if byte < 0x80 then some (1, byte.toNat)
  else if byte &&& 0xe0 = 0xc0 then some (2, (byte &&& 0x1f).toNat)
  else if byte &&& 0xf0 = 0xe0 then some (3, (byte &&& 0x0f).toNat)
  else if byte &&& 0xf8 = 0xf0 then some (4, (byte &&& 0x07).toNat)
  else none

/-- The continuation bytes of a sequence, folded into its value. -/
def continuations : Bytes → Nat → Except Bytes Nat
  | [], value => .ok value
  | byte :: rest, value =>
    if byte &&& 0xc0 = 0x80 then
      continuations rest (value * 64 + (byte &&& 0x3f).toNat)
    else
      .error (bytes "Invalid UTF-8 continuation byte")

/-- `decode_code_point`: the value and the width at the head of `text`. -/
def decodeCodePoint (text : Bytes) : Except Bytes (Nat × Nat) :=
  match text with
  | [] => .error (bytes "Invalid UTF-8: missing code point")
  | byte :: rest =>
    match leadByte byte with
    | none => .error (bytes "Invalid UTF-8 leading byte")
    | some (width, payload) =>
      if text.length < width then
        .error (bytes "Invalid UTF-8: truncated code point")
      else do
        let value ← continuations (rest.take (width - 1)) payload
        if (width = 2 ∧ value < 0x80) ∨ (width = 3 ∧ value < 0x800) ∨
            (width = 4 ∧ value < 0x10000) ∨ 0x10ffff < value ∨
            (0xd800 ≤ value ∧ value ≤ 0xdfff) then
          .error (bytes "Invalid UTF-8 code point")
        else
          .ok (value, width)

/-- `encode_code_point`. -/
def encodeCodePoint (value : Nat) : Bytes :=
  let tail (part : Nat) : UInt8 := (0x80 + part % 64).toUInt8
  if value ≤ 0x7f then
    [value.toUInt8]
  else if value ≤ 0x7ff then
    [(0xc0 + value / 64).toUInt8, tail value]
  else if value ≤ 0xffff then
    [(0xe0 + value / 4096).toUInt8, tail (value / 64), tail value]
  else
    [(0xf0 + value / 262144).toUInt8, tail (value / 4096),
      tail (value / 64), tail value]

/-- `CodePoint`: the value and the bytes it was read from. -/
structure CodePoint where
  value : Nat
  text : Bytes
  deriving Repr, DecidableEq

/-- `decode_utf8`; a code point takes at least one byte. -/
def decodeUtf8 : Nat → Bytes → Except Bytes (List CodePoint)
  | 0, _ => .ok []
  | _ + 1, [] => .ok []
  | rounds + 1, byte :: text => do
      let (value, width) ← decodeCodePoint (byte :: text)
      let rest ← decodeUtf8 rounds ((byte :: text).drop width)
      .ok ({ value, text := (byte :: text).take width } :: rest)

/-! ## Pretokens -/

/-- `is_ascii_digit`. -/
def isAsciiDigit (value : Nat) : Bool :=
  0x30 ≤ value && value ≤ 0x39

/-- `is_cjk`. -/
def isCjk (value : Nat) : Bool :=
  (0x4e00 ≤ value && value ≤ 0x9fff) || (0x3400 ≤ value && value ≤ 0x4dbf) ||
    (0x3040 ≤ value && value ≤ 0x30ff) || (0x31f0 ≤ value && value ≤ 0x31ff)

/-- `is_space`. -/
def isSpace (value : Nat) : Bool :=
  value = 0x20 || value = 0x09 || value = 0x0a || value = 0x0d ||
    value = 0x0c || value = 0x0b || value = 0xa0 || value = 0x1680 ||
    (0x2000 ≤ value && value ≤ 0x200a) || value = 0x2028 ||
    value = 0x2029 || value = 0x202f || value = 0x205f || value = 0x3000

/-- `is_letter_or_mark`. -/
def isLetterOrMark (value : Nat) : Bool :=
  (0x41 ≤ value && value ≤ 0x5a) || (0x61 ≤ value && value ≤ 0x7a) ||
    (0x300 ≤ value && value ≤ 0x36f) ||
    (0xc0 ≤ value && !isSpace value && !isCjk value &&
      !(0x2000 ≤ value && value ≤ 0x206f))

/-- `is_ascii_punctuation_or_symbol`. -/
def isAsciiPunctuationOrSymbol (value : Nat) : Bool :=
  (0x21 ≤ value && value ≤ 0x2f) || (0x3a ≤ value && value ≤ 0x40) ||
    (0x5b ≤ value && value ≤ 0x60) || (0x7b ≤ value && value ≤ 0x7e)

/-- `is_punctuation_or_symbol`. -/
def isPunctuationOrSymbol (value : Nat) : Bool :=
  isAsciiPunctuationOrSymbol value ||
    !(isSpace value || isLetterOrMark value || isAsciiDigit value ||
      isCjk value)

/-- A line break. -/
def isLineBreak (value : Nat) : Bool :=
  value = 0x0d || value = 0x0a

/-- How many code points of `rest` satisfy `accept` in a row. -/
def run
    (accept : Nat → Bool)
    (rest : List CodePoint) : Nat :=
  (rest.takeWhile fun point => accept point.value).length

/-- How many code points of `rest` the pretoken led by `current` takes. -/
def pretokenTail
    (current : Nat)
    (rest : List CodePoint) : Nat :=
  if isAsciiDigit current then
    min 2 (run isAsciiDigit rest)
  else if isCjk current then
    run isCjk rest
  else if isLineBreak current then
    run isLineBreak rest
  else if isSpace current then
    if current = 0x20 ∧
        (rest.head?.any fun point => isLetterOrMark point.value) then
      run isLetterOrMark rest
    else
      run (fun value => isSpace value && !isLineBreak value) rest
  else if isLetterOrMark current then
    run isLetterOrMark rest
  else if isPunctuationOrSymbol current then
    let symbols := run isPunctuationOrSymbol rest
    symbols + run isLineBreak (rest.drop symbols)
  else
    0

/-- The loop of `split_pretokens`; a pretoken takes at least one code point. -/
def splitCodePoints : Nat → List CodePoint → List Bytes
  | 0, _ => []
  | _ + 1, [] => []
  | rounds + 1, point :: rest =>
    let taken := pretokenTail point.value rest
    (point.text ++ (rest.take taken).flatMap (·.text)) ::
      splitCodePoints rounds (rest.drop taken)

/-- `split_pretokens`. -/
def splitPretokens (text : Bytes) : Except Bytes (List Bytes) := do
  let points ← decodeUtf8 text.length text
  .ok (splitCodePoints points.length points)

/-! ## The byte alphabet -/

/-- The bytes that stand for themselves in a symbol. -/
def isDirect (byte : Nat) : Bool :=
  (33 ≤ byte && byte ≤ 126) || (161 ≤ byte && byte ≤ 172) ||
    (174 ≤ byte && byte ≤ 255)

/-- The code point that stands for a byte in a symbol. -/
def byteCodePoint (byte : Nat) : Nat :=
  if isDirect byte then byte
  else 256 + ((List.range byte).filter fun other => !isDirect other).length

/-- `byte_to_symbol`. -/
def byteToSymbol (byte : UInt8) : Bytes :=
  encodeCodePoint (byteCodePoint byte.toNat)

/-- The byte a code point stands for, or its own UTF-8 form. -/
def codePointBytes (point : CodePoint) : Bytes :=
  match (List.range 256).find? fun byte => byteCodePoint byte = point.value with
  | some byte => [byte.toUInt8]
  | none => encodeCodePoint point.value

/-- `decode_base_symbol`. -/
def decodeBaseSymbol (symbol : Bytes) : Except Bytes Bytes := do
  let points ← decodeUtf8 symbol.length symbol
  .ok (points.flatMap codePointBytes)

/-- `pair_key`. -/
def pairKey (left right : Bytes) : Bytes :=
  left ++ [0] ++ right

/-- `AddedToken`. -/
structure AddedToken where
  id : Nat
  flags : UInt8
  content : Bytes
  deriving Repr, DecidableEq

/-- The order of the added-token table: longer first, then by content. -/
def addedBefore (left right : AddedToken) : Bool :=
  decide (right.content.length < left.content.length) ||
    (left.content.length == right.content.length &&
      decide (left.content ≤ right.content))

end Tokenizer

open Tokenizer

/--
`Dsv4Tokenizer` once loaded.  The table of added tokens is kept longest first,
and none of them is empty.
-/
structure Tokenizer where
  idLimit : Nat
  eosTokenId : Nat
  thinkingEndTokenId : Nat
  vocabSymbols : Nat → Bytes
  decodedSymbols : Nat → Bytes
  symbolToId : Bytes → Option Nat
  mergeRanks : Bytes → Option Nat
  addedTokens : List AddedToken
  addedContentToId : Bytes → Option Nat
  longestFirst :
    addedTokens.Pairwise fun left right =>
      right.content.length ≤ left.content.length
  addedNonempty : ∀ token ∈ addedTokens, token.content ≠ []

namespace Tokenizer

/-! ## Loading -/

/-- What `load` reads from the artifact, in file order. -/
structure Artifact where
  baseVocab : List (Nat × Bytes)
  idLimit : Nat
  merges : List (Bytes × Bytes)
  added : List AddedToken
  bosTokenId : Nat
  eosTokenId : Nat
  userTokenId : Nat
  assistantTokenId : Nat
  thinkingStartTokenId : Nat
  thinkingEndTokenId : Nat

/-- The base vocabulary, entry by entry: symbols and their decoded bytes. -/
def loadBase
    (idLimit : Nat) :
    List (Nat × Bytes) → (Nat → Bytes) × (Nat → Bytes) →
      Except Bytes ((Nat → Bytes) × (Nat → Bytes))
  | [], tables => .ok tables
  | (id, symbol) :: rest, (symbols, decoded) =>
    if idLimit ≤ id ∨ symbols id ≠ [] then
      .error (bytes "Invalid base vocabulary ID")
    else do
      let text ← decodeBaseSymbol symbol
      loadBase idLimit rest
        (Function.update symbols id symbol, Function.update decoded id text)

theorem addedBefore_total
    (left right : AddedToken) :
    (addedBefore left right || addedBefore right left) = true := by
  simp only [addedBefore, Bool.or_eq_true, Bool.and_eq_true,
    decide_eq_true_eq, beq_iff_eq]
  rcases Nat.lt_trichotomy left.content.length right.content.length with
    shorter | same | longer
  · exact Or.inr (Or.inl shorter)
  · rcases List.le_total left.content right.content with ordered | ordered
    · exact Or.inl (Or.inr ⟨same, ordered⟩)
    · exact Or.inr (Or.inr ⟨same.symm, ordered⟩)
  · exact Or.inl (Or.inl longer)

theorem addedBefore_trans
    (left middle right : AddedToken)
    (before : addedBefore left middle = true)
    (after : addedBefore middle right = true) :
    addedBefore left right = true := by
  simp only [addedBefore, Bool.or_eq_true, Bool.and_eq_true,
    decide_eq_true_eq, beq_iff_eq] at before after ⊢
  rcases before with longer | ⟨sameLength, ordered⟩
  · left
    rcases after with longerStill | ⟨sameLength, _⟩ <;> omega
  · rcases after with longer | ⟨sameAgain, orderedAgain⟩
    · left
      omega
    · right
      exact ⟨sameLength.trans sameAgain,
        List.le_trans ordered orderedAgain⟩

theorem sorted_longestFirst
    (added : List AddedToken) :
    (added.mergeSort addedBefore).Pairwise fun left right =>
      right.content.length ≤ left.content.length := by
  apply (List.pairwise_mergeSort addedBefore_trans addedBefore_total
    added).imp
  intro left right ordered
  simp only [addedBefore, Bool.or_eq_true, Bool.and_eq_true,
    decide_eq_true_eq, beq_iff_eq] at ordered
  omega

/-- `Dsv4Tokenizer::load`, from the artifact's fields. -/
def load (artifact : Artifact) : Except Bytes Tokenizer :=
  if artifact.baseVocab.length = 0 ∨ artifact.idLimit = 0 ∨
      artifact.idLimit ≤ artifact.bosTokenId ∨
      artifact.idLimit ≤ artifact.eosTokenId ∨
      artifact.idLimit ≤ artifact.userTokenId ∨
      artifact.idLimit ≤ artifact.assistantTokenId ∨
      artifact.idLimit ≤ artifact.thinkingStartTokenId ∨
      artifact.idLimit ≤ artifact.thinkingEndTokenId then
    .error (bytes "Invalid DSV4 tokenizer artifact dimensions")
  else do
    let (symbols, decoded) ←
      loadBase artifact.idLimit artifact.baseVocab (fun _ => [], fun _ => [])
    if valid : ∀ token ∈ artifact.added,
        token.id < artifact.idLimit ∧ token.content ≠ [] then
      .ok {
        idLimit := artifact.idLimit
        eosTokenId := artifact.eosTokenId
        thinkingEndTokenId := artifact.thinkingEndTokenId
        vocabSymbols := symbols
        decodedSymbols := decoded
        -- `emplace` keeps the first entry of a key, assignment the last one.
        symbolToId := fun symbol =>
          (artifact.baseVocab.find? fun entry => entry.2 = symbol).map (·.1)
        mergeRanks := fun key =>
          artifact.merges.findIdx? fun merge => pairKey merge.1 merge.2 = key
        addedTokens := artifact.added.mergeSort addedBefore
        addedContentToId := fun content =>
          (artifact.added.reverse.find? fun token =>
            token.content = content).map (·.id)
        longestFirst := sorted_longestFirst artifact.added
        addedNonempty := by
          intro token listed
          exact (valid token (List.mem_mergeSort.mp listed)).2 }
    else
      .error (bytes "Invalid added token")

variable (tokenizer : Tokenizer)

/-- `added_token_text`. -/
def addedTokenText (content : Bytes) : Except Bytes Bytes :=
  match tokenizer.addedContentToId content with
  | none =>
    .error (bytes "Tokenizer does not define special token: " ++ content)
  | some id =>
    match tokenizer.addedTokens.find? fun token => token.id = id with
    | some token => .ok token.content
    | none =>
      .error (bytes "Tokenizer added-token table is inconsistent for: " ++
        content)

/-! ## Encoding -/

/-- The lowest-ranked adjacent pair, the leftmost of them. -/
def bestMerge : List Bytes → Option (Nat × Nat)
  | [] => none
  | [_] => none
  | left :: right :: rest =>
    let later := (bestMerge (right :: rest)).map fun (rank, index) =>
      (rank, index + 1)
    match tokenizer.mergeRanks (pairKey left right), later with
    | none, _ => later
    | some rank, none => some (rank, 0)
    | some rank, some (other, index) =>
      if other < rank then some (other, index) else some (rank, 0)

/-- The symbols with the pair at `index` merged. -/
def mergeAt : Nat → List Bytes → List Bytes
  | 0, left :: right :: rest => (left ++ right) :: rest
  | index + 1, symbol :: rest => symbol :: mergeAt index rest
  | _, symbols => symbols

/-- The merge loop of `encode_standard`; a merge removes one symbol. -/
def mergeSymbols : Nat → List Bytes → List Bytes
  | 0, symbols => symbols
  | rounds + 1, symbols =>
    match tokenizer.bestMerge symbols with
    | none => symbols
    | some (_, index) => mergeSymbols rounds (mergeAt index symbols)

/-- The ids of merged symbols. -/
def symbolIds : List Bytes → Except Bytes (List Nat)
  | [] => .ok []
  | symbol :: rest =>
    match tokenizer.symbolToId symbol with
    | none => .error (bytes "Tokenizer BPE produced an unknown symbol")
    | some id => do
        let ids ← symbolIds rest
        .ok (id :: ids)

/-- The ids of pretokens.  Each byte of a pretoken is one symbol at first. -/
def encodePieces : List Bytes → Except Bytes (List Nat)
  | [] => .ok []
  | piece :: rest => do
      let ids ← tokenizer.symbolIds
        (tokenizer.mergeSymbols piece.length (piece.map byteToSymbol))
      let others ← encodePieces rest
      .ok (ids ++ others)

/-- `encode_standard`. -/
def encodeStandard (text : Bytes) : Except Bytes (List Nat) := do
  let pieces ← splitPretokens text
  tokenizer.encodePieces pieces

/-- The added token that matches at the head of `text`, the first listed. -/
def matchAdded (text : Bytes) : Option AddedToken :=
  tokenizer.addedTokens.find? fun token => token.content.isPrefixOf text

/-- Where the next added token starts in `text`, or its length. -/
def nextAdded (text : Bytes) : Nat :=
  tokenizer.addedTokens.foldl
    (fun next token =>
      match Bytes.find token.content text with
      | some found => if found < next then found else next
      | none => next)
    text.length

/-- The loop of `encode`; a round takes at least one byte. -/
def encodeFrom : Nat → Bytes → Except Bytes (List Nat)
  | 0, _ => .ok []
  | _ + 1, [] => .ok []
  | rounds + 1, byte :: text =>
    match tokenizer.matchAdded (byte :: text) with
    | some token => do
        let rest ← encodeFrom rounds
          ((byte :: text).drop token.content.length)
        .ok (token.id :: rest)
    | none =>
      let stop := tokenizer.nextAdded (byte :: text)
      if stop = 0 then
        .error (bytes "Tokenizer failed to advance")
      else do
        let encoded ← tokenizer.encodeStandard ((byte :: text).take stop)
        let rest ← encodeFrom rounds ((byte :: text).drop stop)
        .ok (encoded ++ rest)

/-- `Dsv4Tokenizer::encode`. -/
def encode (text : Bytes) : Except Bytes (List Nat) :=
  tokenizer.encodeFrom text.length text

/-- An added token's text that no other added token's text extends. -/
structure Separates (content : Bytes) : Prop where
  added : ∃ token ∈ tokenizer.addedTokens, token.content = content
  unextended :
    ∀ token ∈ tokenizer.addedTokens,
      content <+: token.content → token.content = content

variable {tokenizer}

theorem Separates.matchAdded
    {content : Bytes}
    (separates : tokenizer.Separates content)
    (text : Bytes) :
    ∃ token,
      tokenizer.matchAdded (content ++ text) = some token ∧
        token.content = content ∧
        tokenizer.addedTokens.find? (fun token => token.content = content) =
          some token := by
  obtain ⟨own, ownListed, ownContent⟩ := separates.added
  have contentMatches : content.isPrefixOf (content ++ text) = true :=
    List.isPrefixOf_iff_prefix.mpr (List.prefix_append content text)
  have matching : (tokenizer.matchAdded (content ++ text)).isSome = true :=
    List.find?_isSome.mpr ⟨own, ownListed, by rw [ownContent]; simp⟩
  obtain ⟨token, found⟩ := Option.isSome_iff_exists.mp matching
  obtain ⟨matched, before, after, listed, earlier⟩ :=
    List.find?_eq_some_iff_append.mp found
  -- An own token that comes later is not longer than the one found.
  have longEnough : content.length ≤ token.content.length := by
    rw [listed] at ownListed
    rcases List.mem_append.mp ownListed with inFront | inRest
    · have unmatched := earlier own inFront
      rw [ownContent, contentMatches] at unmatched
      cases unmatched
    · rcases List.mem_cons.mp inRest with same | behind
      · rw [← same, ownContent]
      · have sorted := tokenizer.longestFirst
        rw [listed] at sorted
        have order := (List.pairwise_append.mp sorted).2.1
        rw [← ownContent]
        exact (List.pairwise_cons.mp order).1 own behind
  have extended : content <+: token.content :=
    List.prefix_of_prefix_length_le (List.prefix_append content text)
      (List.isPrefixOf_iff_prefix.mp matched) longEnough
  have same : token.content = content :=
    separates.unextended token (by rw [listed]; simp) extended
  refine ⟨token, found, same, ?_⟩
  apply List.find?_eq_some_iff_append.mpr
  refine ⟨by simpa using same, before, after, listed, ?_⟩
  intro other inFront
  have unmatched := earlier other inFront
  by_contra equal
  have otherContent : other.content = content := by simpa using equal
  rw [otherContent, contentMatches] at unmatched
  cases unmatched

theorem Separates.encode
    {content : Bytes}
    (separates : tokenizer.Separates content) :
    ∃ id,
      tokenizer.encode content = .ok [id] ∧
        ∀ text ids,
          tokenizer.encode (content ++ text) = .ok ids →
          ∃ rest, ids = id :: rest := by
  obtain ⟨token, found, same, first⟩ := separates.matchAdded []
  have listed : token ∈ tokenizer.addedTokens := List.mem_of_find?_eq_some found
  have nonempty : content ≠ [] := by
    rw [← same]
    exact tokenizer.addedNonempty token listed
  obtain ⟨byte, tail, shape⟩ := List.exists_cons_of_ne_nil nonempty
  have drained (rounds : Nat) : tokenizer.encodeFrom rounds [] = .ok [] := by
    cases rounds <;> rfl
  refine ⟨token.id, ?_, ?_⟩
  · rw [List.append_nil, shape] at found
    rw [shape] at same
    simp [Tokenizer.encode, shape, encodeFrom, found, same, drained]
  · intro text ids encoded
    obtain ⟨other, otherFound, otherSame, otherFirst⟩ :=
      separates.matchAdded text
    obtain rfl : token = other := by
      rw [first] at otherFirst
      exact Option.some.inj otherFirst
    rw [shape, List.cons_append] at otherFound
    rw [Tokenizer.encode, shape, List.cons_append, List.length_cons,
      encodeFrom, otherFound] at encoded
    obtain ⟨rest, _, returned⟩ := bind_eq_ok.mp encoded
    exact ⟨rest, (Except.ok.inj returned).symm⟩

variable (tokenizer)

/-! ## Decoding -/

/-- The text of one id. -/
def decodeToken
    (skipSpecialTokens : Bool)
    (id : Nat) : Except Bytes Bytes :=
  if tokenizer.idLimit ≤ id then
    .error (bytes "Token ID exceeds tokenizer vocabulary")
  else
    match tokenizer.addedTokens.find? fun token => token.id = id with
    | some token =>
      if skipSpecialTokens && token.flags &&& 1 != 0 then .ok []
      else .ok token.content
    | none =>
      if tokenizer.vocabSymbols id = [] then
        .error (bytes "Token ID has no vocabulary entry")
      else
        .ok (tokenizer.decodedSymbols id)

/-- `Dsv4Tokenizer::decode`. -/
def decode (skipSpecialTokens : Bool) : List Nat → Except Bytes Bytes
  | [] => .ok []
  | id :: rest => do
      let text ← tokenizer.decodeToken skipSpecialTokens id
      let others ← decode skipSpecialTokens rest
      .ok (text ++ others)

/-- Decoding inverts encoding. -/
def RoundTrip : Prop :=
  ∀ text ids,
    tokenizer.encode text = .ok ids → tokenizer.decode false ids = .ok text

theorem decode_append
    (skipSpecialTokens : Bool)
    (front back : List Nat) :
    tokenizer.decode skipSpecialTokens (front ++ back) = (do
      let text ← tokenizer.decode skipSpecialTokens front
      let others ← tokenizer.decode skipSpecialTokens back
      .ok (text ++ others)) := by
  induction front with
  | nil =>
    cases decoded : tokenizer.decode skipSpecialTokens back with
    | error error => simp [decode, decoded]
    | ok text => simp [decode, decoded]
  | cons id front ih =>
    simp only [List.cons_append, decode, ih, bind_assoc,
      ok_bind, List.append_assoc]

/-! ## Round trips -/

variable {tokenizer}

/-- A lead byte counts itself. -/
theorem decodeCodePoint_width
    {text : Bytes}
    {value width : Nat}
    (decoded : decodeCodePoint text = .ok (value, width)) :
    0 < width := by
  cases text with
  | nil =>
    cases decoded
  | cons byte rest =>
    cases led : leadByte byte with
    | none =>
      simp [decodeCodePoint, led] at decoded
    | some lead =>
      obtain ⟨leadWidth, payload⟩ := lead
      have positive : 0 < leadWidth := by
        unfold leadByte at led
        grind
      simp only [decodeCodePoint, led] at decoded
      split at decoded
      · cases decoded
      · obtain ⟨folded, _, returned⟩ := bind_eq_ok.mp decoded
        split at returned
        · cases returned
        · obtain ⟨-, rfl⟩ := Prod.mk.inj (Except.ok.inj returned)
          exact positive

theorem decodeUtf8_text
    (rounds : Nat)
    (text : Bytes)
    (points : List CodePoint)
    (enough : text.length ≤ rounds)
    (decoded : decodeUtf8 rounds text = .ok points) :
    points.flatMap (·.text) = text := by
  induction rounds generalizing text points with
  | zero =>
    obtain rfl := List.length_eq_zero_iff.mp (Nat.le_zero.mp enough)
    obtain rfl := Except.ok.inj decoded
    rfl
  | succ rounds ih =>
    cases text with
    | nil =>
      obtain rfl := Except.ok.inj decoded
      rfl
    | cons byte text =>
      obtain ⟨⟨value, width⟩, read, afterRead⟩ := bind_eq_ok.mp decoded
      obtain ⟨rest, decodedRest, joined⟩ := bind_eq_ok.mp afterRead
      obtain rfl := Except.ok.inj joined
      have advanced := decodeCodePoint_width read
      have shorter :
          ((byte :: text).drop width).length ≤ rounds := by
        simp only [List.length_drop, List.length_cons] at enough ⊢
        omega
      rw [List.flatMap_cons,
        ih _ _ shorter decodedRest,
        List.take_append_drop]

theorem splitCodePoints_flatten
    (rounds : Nat)
    (points : List CodePoint)
    (enough : points.length ≤ rounds) :
    (splitCodePoints rounds points).flatten = points.flatMap (·.text) := by
  induction rounds generalizing points with
  | zero =>
    obtain rfl := List.length_eq_zero_iff.mp (Nat.le_zero.mp enough)
    rfl
  | succ rounds ih =>
    cases points with
    | nil =>
      rfl
    | cons point rest =>
      have shorter :
          (rest.drop (pretokenTail point.value rest)).length ≤
            rounds := by
        simp only [List.length_drop, List.length_cons] at enough ⊢
        omega
      rw [splitCodePoints, List.flatten_cons,
        ih _ shorter, List.append_assoc,
        ← List.flatMap_append, List.take_append_drop,
        List.flatMap_cons]

/-- Every pretoken that was encoded decodes to its bytes. -/
def PiecesReturn (tokenizer : Tokenizer) : Prop :=
  ∀ piece ids,
    tokenizer.symbolIds
        (tokenizer.mergeSymbols piece.length (piece.map byteToSymbol)) =
      .ok ids →
    tokenizer.decode false ids = .ok piece

/-- Text between added tokens returns when its pretokens do. -/
theorem decode_encodeStandard
    {text : Bytes}
    {ids : List Nat}
    (returns : PiecesReturn tokenizer)
    (encoded : tokenizer.encodeStandard text = .ok ids) :
    tokenizer.decode false ids = .ok text := by
  have pieceByPiece (pieces : List Bytes) (ids : List Nat)
      (encodedPieces : tokenizer.encodePieces pieces = .ok ids) :
      tokenizer.decode false ids = .ok pieces.flatten := by
    induction pieces generalizing ids with
    | nil =>
      obtain rfl := Except.ok.inj encodedPieces
      rfl
    | cons piece pieces ih =>
      obtain ⟨front, encodedFront, afterFront⟩ :=
        bind_eq_ok.mp encodedPieces
      obtain ⟨back, encodedBack, joined⟩ := bind_eq_ok.mp afterFront
      obtain rfl := Except.ok.inj joined
      rw [decode_append, returns piece front encodedFront, ok_bind,
        ih back encodedBack, ok_bind, List.flatten_cons]
  obtain ⟨pieces, cut, encodedPieces⟩ := bind_eq_ok.mp encoded
  obtain ⟨points, decoded, grouped⟩ := bind_eq_ok.mp cut
  obtain rfl := Except.ok.inj grouped
  rw [pieceByPiece _ ids encodedPieces,
    splitCodePoints_flatten _ _ (Nat.le_refl _),
    decodeUtf8_text _ _ _ (Nat.le_refl _) decoded]

theorem roundTrip_of_pieces
    (addedReturn :
      ∀ token ∈ tokenizer.addedTokens,
        tokenizer.decodeToken false token.id = .ok token.content)
    (returns : PiecesReturn tokenizer) :
    tokenizer.RoundTrip := by
  have fromRounds (rounds : Nat) (text : Bytes) (ids : List Nat)
      (enough : text.length ≤ rounds)
      (encoded : tokenizer.encodeFrom rounds text = .ok ids) :
      tokenizer.decode false ids = .ok text := by
    induction rounds generalizing text ids with
    | zero =>
      obtain rfl := List.length_eq_zero_iff.mp (Nat.le_zero.mp enough)
      obtain rfl := Except.ok.inj encoded
      rfl
    | succ rounds ih =>
      cases text with
      | nil =>
        obtain rfl := Except.ok.inj encoded
        rfl
      | cons byte text =>
        have shorter (taken : Nat) (positive : 0 < taken) :
            ((byte :: text).drop taken).length ≤ rounds := by
          simp only [List.length_drop, List.length_cons] at enough ⊢
          omega
        unfold encodeFrom at encoded
        split at encoded
        · next token found =>
            obtain ⟨rest, encodedRest, joined⟩ := bind_eq_ok.mp encoded
            obtain rfl := Except.ok.inj joined
            have listed := List.mem_of_find?_eq_some found
            have positive :=
              List.length_pos_iff.mpr
                (tokenizer.addedNonempty token listed)
            have leads : token.content <+: byte :: text :=
              List.isPrefixOf_iff_prefix.mp
                (List.find?_eq_some_iff_append.mp found).1
            have decodedRest :=
              ih _ _ (shorter _ positive) encodedRest
            rw [decode, addedReturn token listed, ok_bind, decodedRest,
              ok_bind, List.prefix_iff_eq_append.mp leads]
        · simp only at encoded
          split at encoded
          · cases encoded
          · next moved =>
              obtain ⟨front, encodedFront, afterFront⟩ :=
                bind_eq_ok.mp encoded
              obtain ⟨back, encodedBack, joined⟩ :=
                bind_eq_ok.mp afterFront
              obtain rfl := Except.ok.inj joined
              have decodedBack := ih _ _
                (shorter _ (Nat.pos_of_ne_zero moved)) encodedBack
              rw [decode_append, decode_encodeStandard returns encodedFront,
                ok_bind, decodedBack, ok_bind, List.take_append_drop]
  intro text ids encoded
  exact fromRounds text.length text ids (Nat.le_refl _) encoded

end Tokenizer

end Aeon.Text
