import Aeon.Tokenizer
import Aeon.Utf8

namespace Aeon.Text.Tokenizer

/-!
# The tokenizer round trip

Valid UTF-8 is cut at added tokens and into pretokens without cutting a scalar;
the bytes of a pretoken become symbols, and every symbol that merging makes stands
for a run of those bytes.  When the artifact's vocabulary has these symbols and its
ids are told apart, encoding returns and decoding gives the text back.
-/

open Aeon.Utf8 (Valid IsContinuation)

/-! ## Reading scalars -/

theorem leadByte_one :
    ∀ part < 128, leadByte (UInt8.ofNat part) = some (1, part) := by
  decide

theorem leadByte_two :
    ∀ part < 32, leadByte (UInt8.ofNat (part + 0xc0)) = some (2, part) := by
  decide

theorem leadByte_three :
    ∀ part < 16, leadByte (UInt8.ofNat (part + 0xe0)) = some (3, part) := by
  decide

theorem leadByte_four :
    ∀ part < 8, leadByte (UInt8.ofNat (part + 0xf0)) = some (4, part) := by
  decide

/-- What a continuation byte carries. -/
theorem tail_payload :
    ∀ part < 64,
      UInt8.ofNat (part + 0x80) &&& 0xc0 = 0x80 ∧
        (UInt8.ofNat (part + 0x80) &&& 0x3f).toNat = part := by
  decide

theorem continuations_tail
    (value part : Nat)
    (rest : Bytes) :
    continuations (UInt8.ofNat (part % 0x40 + 0x80) :: rest) value =
      continuations rest (value * 64 + part % 0x40) := by
  obtain ⟨continues, payload⟩ :=
    tail_payload (part % 0x40) (Nat.mod_lt _ (by decide))
  rw [continuations, if_pos continues, payload]

theorem decodeCodePoint_sequence
    {lead : UInt8}
    {tail : Bytes}
    {payload value : Nat}
    (leads : leadByte lead = some (tail.length + 1, payload))
    (folded : continuations tail payload = .ok value)
    (scalar :
      ¬ ((tail.length + 1 = 2 ∧ value < 0x80) ∨
        (tail.length + 1 = 3 ∧ value < 0x800) ∨
        (tail.length + 1 = 4 ∧ value < 0x10000) ∨ 0x10ffff < value ∨
        (0xd800 ≤ value ∧ value ≤ 0xdfff)))
    (rest : Bytes) :
    decodeCodePoint (lead :: tail ++ rest) = .ok (value, tail.length + 1) := by
  have fits : ¬ (lead :: (tail ++ rest)).length < tail.length + 1 := by
    simp
  have taken : (tail ++ rest).take (tail.length + 1 - 1) = tail := by
    simp
  simp only [List.cons_append, decodeCodePoint, leads]
  rw [if_neg fits, taken, folded, ok_bind, if_neg scalar]

theorem decodeCodePoint_encode
    (char : Char)
    (rest : Bytes) :
    decodeCodePoint (String.utf8EncodeChar char ++ rest) =
      .ok (char.toNat, (String.utf8EncodeChar char).length) := by
  have valid : char.toNat < 0xd800 ∨
      (0xdfff < char.toNat ∧ char.toNat < 0x110000) := char.valid
  have read
      {lead : UInt8}
      {tail : Bytes}
      {payload value : Nat}
      (leads : leadByte lead = some (tail.length + 1, payload))
      (folded : continuations tail payload = .ok value)
      (same : value = char.toNat)
      (wide :
        ¬ ((tail.length + 1 = 2 ∧ value < 0x80) ∨
          (tail.length + 1 = 3 ∧ value < 0x800) ∨
          (tail.length + 1 = 4 ∧ value < 0x10000))) :
      decodeCodePoint (lead :: tail ++ rest) =
        .ok (char.toNat, (lead :: tail).length) := by
    subst same
    exact decodeCodePoint_sequence leads folded (by omega) rest
  have value : char.val.toNat = char.toNat := rfl
  unfold String.utf8EncodeChar
  simp only [value]
  split
  · exact read (leadByte_one _ (by omega)) rfl rfl (by simp)
  · split
    · refine read (leadByte_two _ (Nat.mod_lt _ (by decide)))
        (continuations_tail _ _ _) ?_ ?_
      · omega
      · simp only [List.length_cons, List.length_nil]
        omega
    · split
      · refine read (leadByte_three _ (Nat.mod_lt _ (by decide)))
          (by rw [continuations_tail, continuations_tail]; rfl) ?_ ?_
        · omega
        · simp only [List.length_cons, List.length_nil]
          omega
      · refine read (leadByte_four _ (Nat.mod_lt _ (by decide)))
          (by rw [continuations_tail, continuations_tail,
            continuations_tail]; rfl) ?_ ?_
        · omega
        · simp only [List.length_cons, List.length_nil]
          omega

/-- The code point of a scalar. -/
def pointOf (char : Char) : CodePoint where
  value := char.toNat
  text := String.utf8EncodeChar char

theorem decodeUtf8_encode
    (chars : List Char)
    (rounds : Nat)
    (enough : (Utf8.encode chars).length ≤ rounds) :
    decodeUtf8 rounds (Utf8.encode chars) = .ok (chars.map pointOf) := by
  induction chars generalizing rounds with
  | nil => cases rounds <;> rfl
  | cons char chars ih =>
    have positive : 0 < (String.utf8EncodeChar char).length :=
      List.length_pos_iff.mpr String.utf8EncodeChar_ne_nil
    rw [Utf8.encode_cons, List.length_append] at enough
    cases rounds with
    | zero => omega
    | succ rounds =>
      have later := ih rounds (by omega)
      have first := decodeCodePoint_encode char (Utf8.encode chars)
      rw [Utf8.encode_cons]
      obtain ⟨lead, others, unit, -, -⟩ := Utf8.utf8EncodeChar_shape char
      rw [unit] at first ⊢
      rw [List.cons_append, decodeUtf8]
      rw [List.cons_append] at first
      rw [first, ok_bind]
      simp only
      rw [← List.cons_append, List.drop_left, later, ok_bind,
        List.take_left, List.map_cons, pointOf, unit]

/-! ## Pretokens of valid text -/

/-- The pretokens of valid text are groups of its scalars. -/
theorem splitCodePoints_valid
    (rounds : Nat)
    (chars : List Char) :
    ∀ piece ∈ splitCodePoints rounds (chars.map pointOf), Valid piece := by
  have together (group : List Char) :
      Valid ((group.map pointOf).flatMap (·.text)) :=
    ⟨group, by rw [List.flatMap_map]; rfl⟩
  induction rounds generalizing chars with
  | zero => simp [splitCodePoints]
  | succ rounds ih =>
    cases chars with
    | nil => simp [splitCodePoints]
    | cons char chars =>
      intro piece listed
      simp only [List.map_cons, splitCodePoints, List.mem_cons,
        ← List.map_take, ← List.map_drop] at listed
      rcases listed with rfl | later
      · exact together (char :: chars.take _)
      · exact ih _ piece later

theorem splitPretokens_valid
    {text : Bytes}
    (valid : Valid text) :
    ∃ pieces,
      splitPretokens text = .ok pieces ∧ pieces.flatten = text ∧
        ∀ piece ∈ pieces, Valid piece := by
  obtain ⟨chars, rfl⟩ := valid
  have decoded := decodeUtf8_encode chars _ (Nat.le_refl _)
  refine ⟨splitCodePoints (chars.map pointOf).length (chars.map pointOf),
    ?_, ?_, splitCodePoints_valid _ _⟩
  · rw [splitPretokens, decoded, ok_bind]
  · rw [splitCodePoints_flatten _ _ (Nat.le_refl _)]
    exact decodeUtf8_text _ _ _ (Nat.le_refl _) decoded

/-! ## The byte alphabet -/

/-- How many bytes below a bound do not stand for themselves. -/
theorem undirect_lt
    {smaller larger : Nat}
    (below : smaller < larger)
    (undirect : isDirect smaller = false) :
    ((List.range smaller).filter fun other => !isDirect other).length <
      ((List.range larger).filter fun other => !isDirect other).length := by
  induction larger with
  | zero => omega
  | succ larger ih =>
    rw [List.range_succ, List.filter_append, List.length_append]
    by_cases last : smaller = larger
    · subst smaller
      simp [undirect]
    · have earlier := ih (by omega)
      omega

theorem byteCodePoint_inj
    {one other : Nat}
    (oneSmall : one < 256)
    (otherSmall : other < 256)
    (same : byteCodePoint one = byteCodePoint other) :
    one = other := by
  unfold byteCodePoint at same
  split at same
  · split at same
    · exact same
    · omega
  · next oneUndirect =>
      split at same
      · omega
      · next otherUndirect =>
          simp only [Bool.not_eq_true] at oneUndirect otherUndirect
          rcases Nat.lt_trichotomy one other with below | equal | above
          · have fewer := undirect_lt below oneUndirect
            omega
          · exact equal
          · have fewer := undirect_lt above otherUndirect
            omega

theorem byteCodePoint_small :
    ∀ byte < 256, 0 < byteCodePoint byte ∧ byteCodePoint byte < 0x200 := by
  intro byte small
  have fewer :
      ((List.range byte).filter fun other => !isDirect other).length ≤ byte := by
    simpa using List.length_filter_le (fun other => !isDirect other)
      (List.range byte)
  unfold byteCodePoint
  split
  · next direct =>
      have positive : byte ≠ 0 := by
        rintro rfl
        simp [isDirect] at direct
      omega
  · omega

/-- The scalar that stands for a byte. -/
def byteChar (byte : UInt8) : Char :=
  Char.ofNat (byteCodePoint byte.toNat)

theorem byteChar_toNat
    (byte : UInt8) :
    (byteChar byte).toNat = byteCodePoint byte.toNat := by
  have small := (byteCodePoint_small byte.toNat byte.toNat_lt).2
  have scalar : (byteCodePoint byte.toNat).isValidChar := Or.inl (by omega)
  unfold byteChar Char.ofNat
  rw [dif_pos scalar]
  rfl

theorem byteToSymbol_eq
    (byte : UInt8) :
    byteToSymbol byte = String.utf8EncodeChar (byteChar byte) := by
  have small := (byteCodePoint_small byte.toNat byte.toNat_lt).2
  have value : (byteChar byte).val.toNat = byteCodePoint byte.toNat :=
    byteChar_toNat byte
  have lead : byteCodePoint byte.toNat / 64 % 32 =
      byteCodePoint byte.toNat / 64 := Nat.mod_eq_of_lt (by omega)
  unfold byteToSymbol encodeCodePoint String.utf8EncodeChar
  simp only [value, lead]
  split
  · rfl
  · rw [if_pos (by omega), if_pos (by omega)]
    simp [Nat.add_comm]

/-- The symbols of a run of bytes, one after another. -/
def symbolOf (run : Bytes) : Bytes :=
  run.flatMap byteToSymbol

theorem symbolOf_eq
    (run : Bytes) :
    symbolOf run = Utf8.encode (run.map byteChar) := by
  unfold symbolOf Utf8.encode
  rw [List.flatMap_map]
  exact List.flatMap_congr fun byte _ => byteToSymbol_eq byte

theorem codePointBytes_pointOf
    (byte : UInt8) :
    codePointBytes (pointOf (byteChar byte)) = [byte] := by
  have found :
      ((List.range 256).find? fun other =>
        byteCodePoint other = (pointOf (byteChar byte)).value) =
          some byte.toNat := by
    have small : byte.toNat < 256 := byte.toNat_lt
    rw [List.find?_range_eq_some]
    refine ⟨?_, List.mem_range.mpr small, fun other below => ?_⟩
    · simp [pointOf, byteChar_toNat]
    · simp only [pointOf, byteChar_toNat, Bool.not_eq_eq_eq_not, Bool.not_true,
        decide_eq_false_iff_not]
      intro same
      have equal := byteCodePoint_inj (by omega) small same
      omega
  unfold codePointBytes
  rw [found]
  simp

theorem decodeBaseSymbol_symbolOf
    (run : Bytes) :
    decodeBaseSymbol (symbolOf run) = .ok run := by
  rw [decodeBaseSymbol, symbolOf_eq,
    decodeUtf8_encode _ _ (Nat.le_refl _), ok_bind]
  congr 1
  induction run with
  | nil => rfl
  | cons byte run ih =>
    rw [List.map_cons, List.map_cons, List.flatMap_cons,
      codePointBytes_pointOf, ih]
    rfl

/-- No symbol contains the separator of `pair_key`. -/
theorem encodeCodePoint_zero_free :
    ∀ value < 0x200, 0 < value → 0 ∉ encodeCodePoint value := by
  decide +kernel

theorem symbolOf_zero_free
    (run : Bytes) :
    0 ∉ symbolOf run := by
  unfold symbolOf
  rw [List.mem_flatMap]
  rintro ⟨byte, -, zero⟩
  obtain ⟨positive, small⟩ := byteCodePoint_small byte.toNat byte.toNat_lt
  exact encodeCodePoint_zero_free _ small positive zero

/-- `pair_key` tells pairs apart when the symbols have no separator in them. -/
theorem pairKey_inj
    {left right otherLeft otherRight : Bytes}
    (leftFree : 0 ∉ left)
    (rightFree : 0 ∉ right)
    (same : pairKey otherLeft otherRight = pairKey left right) :
    otherLeft = left ∧ otherRight = right := by
  simp only [pairKey, List.append_assoc, List.singleton_append] at same
  rcases List.append_eq_append_iff.mp same with
    ⟨middle, leftEq, restEq⟩ | ⟨middle, otherEq, restEq⟩
  · cases middle with
    | nil =>
      simp only [List.append_nil, List.nil_append, List.cons.injEq,
        true_and] at leftEq restEq
      exact ⟨leftEq.symm, restEq⟩
    | cons byte middle =>
      rw [List.cons_append, List.cons.injEq] at restEq
      exact absurd (by rw [leftEq, ← restEq.1]; simp) leftFree
  · cases middle with
    | nil =>
      simp only [List.append_nil, List.nil_append, List.cons.injEq,
        true_and] at otherEq restEq
      exact ⟨otherEq, restEq.symm⟩
    | cons byte middle =>
      rw [List.cons_append, List.cons.injEq] at restEq
      exact absurd (by rw [restEq.2]; simp) rightFree

/-! ## The artifact -/

/-- A well-formed artifact. -/
structure WellFormed (artifact : Artifact) : Prop where
  singleBytes :
    ∀ byte, byteToSymbol byte ∈ artifact.baseVocab.map Prod.snd
  mergeResults :
    ∀ merge ∈ artifact.merges,
      merge.1 ++ merge.2 ∈ artifact.baseVocab.map Prod.snd
  symbolsDistinct : (artifact.baseVocab.map Prod.snd).Nodup
  symbolsValid : ∀ entry ∈ artifact.baseVocab, Valid entry.2
  contentsDistinct : (artifact.added.map AddedToken.content).Nodup
  contentsValid : ∀ token ∈ artifact.added, Valid token.content
  idsDisjoint :
    ∀ entry ∈ artifact.baseVocab,
      ∀ token ∈ artifact.added, entry.1 ≠ token.id

theorem loadBase_entries
    {idLimit : Nat}
    {entries : List (Nat × Bytes)}
    {before after : (Nat → Bytes) × (Nat → Bytes)}
    (loaded : loadBase idLimit entries before = .ok after) :
    (∀ id, before.1 id ≠ [] →
        after.1 id = before.1 id ∧ after.2 id = before.2 id) ∧
      ∀ entry ∈ entries, entry.2 ≠ [] →
        entry.1 < idLimit ∧ after.1 entry.1 = entry.2 ∧
          decodeBaseSymbol entry.2 = .ok (after.2 entry.1) := by
  induction entries generalizing before with
  | nil =>
    obtain rfl := Except.ok.inj loaded
    exact ⟨fun _ _ => ⟨rfl, rfl⟩, by simp⟩
  | cons entry entries ih =>
    obtain ⟨id, symbol⟩ := entry
    obtain ⟨symbols, decoded⟩ := before
    rw [loadBase] at loaded
    split at loaded
    · contradiction
    next free =>
      rw [not_or, Nat.not_le, not_not] at free
      obtain ⟨text, read, rest⟩ := bind_eq_ok.mp loaded
      obtain ⟨kept, entered⟩ := ih rest
      constructor
      · intro other used
        have different : other ≠ id := by
          rintro rfl
          exact used free.2
        have still := kept other (by
          simpa [Function.update_of_ne different] using used)
        simpa [Function.update_of_ne different] using still
      · intro entry listed nonempty
        rcases List.mem_cons.mp listed with rfl | later
        · have still := kept id (by simpa using nonempty)
          simp only [Function.update_self] at still
          exact ⟨free.1, still.1, by rw [read, still.2]⟩
        · exact entered entry later nonempty

/-- What `load` makes of an artifact. -/
structure Loaded
    (artifact : Artifact)
    (tokenizer : Tokenizer) : Prop where
  base :
    loadBase artifact.idLimit artifact.baseVocab (fun _ => [], fun _ => []) =
      .ok (tokenizer.vocabSymbols, tokenizer.decodedSymbols)
  addedWithin : ∀ token ∈ artifact.added, token.id < artifact.idLimit
  limit : tokenizer.idLimit = artifact.idLimit
  symbols :
    tokenizer.symbolToId = fun symbol =>
      (artifact.baseVocab.find? fun entry => entry.2 = symbol).map (·.1)
  ranks :
    tokenizer.mergeRanks = fun key =>
      artifact.merges.findIdx? fun merge => pairKey merge.1 merge.2 = key
  table : tokenizer.addedTokens = artifact.added.mergeSort addedBefore

theorem load_loaded
    {artifact : Artifact}
    {tokenizer : Tokenizer}
    (loaded : load artifact = .ok tokenizer) :
    Loaded artifact tokenizer := by
  unfold load at loaded
  split at loaded
  · contradiction
  · obtain ⟨⟨symbols, decoded⟩, base, rest⟩ := bind_eq_ok.mp loaded
    simp only at rest
    split at rest
    · next valid =>
        obtain rfl := Except.ok.inj rest
        exact ⟨base, fun token listed => (valid token listed).1, rfl, rfl, rfl,
          rfl⟩
    · contradiction

section Loaded

variable
    {artifact : Artifact}
    {tokenizer : Tokenizer}

section

variable
    (loaded : Loaded artifact tokenizer)

include loaded

theorem Loaded.mem_table
    {token : AddedToken} :
    token ∈ tokenizer.addedTokens ↔ token ∈ artifact.added := by
  rw [loaded.table]
  exact List.mem_mergeSort

theorem Loaded.knows
    (wellFormed : WellFormed artifact)
    {run : Bytes}
    (nonempty : run ≠ [])
    (listed : symbolOf run ∈ artifact.baseVocab.map Prod.snd) :
    ∃ id,
      tokenizer.symbolToId (symbolOf run) = some id ∧
        tokenizer.decodeToken false id = .ok run := by
  obtain ⟨entry, entryListed, entrySymbol⟩ := List.mem_map.mp listed
  have present :
      (artifact.baseVocab.find? fun entry =>
        entry.2 = symbolOf run).isSome = true :=
    List.find?_isSome.mpr ⟨entry, entryListed, by simpa using entrySymbol⟩
  obtain ⟨first, found⟩ := Option.isSome_iff_exists.mp present
  have firstListed := List.mem_of_find?_eq_some found
  have firstSymbol : first.2 = symbolOf run := by
    simpa using List.find?_some found
  have symbolNonempty : first.2 ≠ [] := by
    rw [firstSymbol, symbolOf]
    obtain ⟨byte, rest, rfl⟩ := List.exists_cons_of_ne_nil nonempty
    rw [List.flatMap_cons, byteToSymbol_eq]
    simp [String.utf8EncodeChar_ne_nil]
  obtain ⟨within, symbolAt, decodedAt⟩ :=
    (loadBase_entries loaded.base).2 first firstListed symbolNonempty
  refine ⟨first.1, ?_, ?_⟩
  · rw [loaded.symbols]
    simp only [found, Option.map_some]
  · have unadded :
        (tokenizer.addedTokens.find? fun token => token.id = first.1) =
          none := by
      rw [List.find?_eq_none]
      intro token tokenListed same
      exact wellFormed.idsDisjoint first firstListed token
        (loaded.mem_table.mp tokenListed) (of_decide_eq_true same).symm
    have text : tokenizer.decodedSymbols first.1 = run := by
      rw [firstSymbol, decodeBaseSymbol_symbolOf] at decodedAt
      exact (Except.ok.inj decodedAt).symm
    simp only at symbolAt
    unfold decodeToken
    rw [loaded.limit, if_neg (by omega), unadded]
    simp only
    rw [symbolAt, if_neg symbolNonempty, text]

theorem Loaded.added
    (distinct : (artifact.added.map AddedToken.id).Nodup)
    {token : AddedToken}
    (listed : token ∈ tokenizer.addedTokens) :
    tokenizer.decodeToken false token.id = .ok token.content := by
  have within := loaded.addedWithin token (loaded.mem_table.mp listed)
  have present :
      (tokenizer.addedTokens.find? fun other =>
        other.id = token.id).isSome = true :=
    List.find?_isSome.mpr ⟨token, listed, by simp⟩
  obtain ⟨first, found⟩ := Option.isSome_iff_exists.mp present
  have same : first = token :=
    List.inj_on_of_nodup_map distinct
      (loaded.mem_table.mp (List.mem_of_find?_eq_some found))
      (loaded.mem_table.mp listed) (by simpa using List.find?_some found)
  unfold decodeToken
  rw [loaded.limit, if_neg (by omega), found, same]
  simp

end

/-! ## Merging -/

variable {symbols : List Bytes}
variable {piece : Bytes}

theorem bestMerge_pair
    {rank index : Nat}
    (best : tokenizer.bestMerge symbols = some (rank, index)) :
    ∃ front left right back,
      symbols = front ++ left :: right :: back ∧ front.length = index ∧
        tokenizer.mergeRanks (pairKey left right) = some rank := by
  induction symbols generalizing rank index with
  | nil => simp [bestMerge] at best
  | cons left symbols ih =>
    cases symbols with
    | nil => simp [bestMerge] at best
    | cons right rest =>
      have shift
          (later :
            (tokenizer.bestMerge (right :: rest)).map
              (fun pair => (pair.1, pair.2 + 1)) =
                some (rank, index)) :
          ∃ front first second back,
            left :: right :: rest = front ++ first :: second :: back ∧
              front.length = index ∧
              tokenizer.mergeRanks (pairKey first second) = some rank := by
        obtain ⟨⟨found, place⟩, chosen, shifted⟩ :=
          Option.map_eq_some_iff.mp later
        obtain ⟨rfl, rfl⟩ := Prod.mk.inj shifted
        obtain ⟨front, first, second, back, shape, length, ranked⟩ :=
          ih chosen
        exact ⟨left :: front, first, second, back, by rw [shape]; rfl,
          by simp [length], ranked⟩
      rw [bestMerge] at best
      simp only at best
      split at best
      · exact shift best
      · next ranked _ =>
          obtain ⟨rfl, rfl⟩ := Prod.mk.inj (Option.some.inj best)
          exact ⟨[], left, right, rest, rfl, rfl, ranked⟩
      · next ranked later =>
          split at best
          · exact shift (later.trans best)
          · obtain ⟨rfl, rfl⟩ := Prod.mk.inj (Option.some.inj best)
            exact ⟨[], left, right, rest, rfl, rfl, ranked⟩

theorem mergeAt_pair
    (front : List Bytes)
    (left right : Bytes)
    (back : List Bytes) :
    mergeAt front.length (front ++ left :: right :: back) =
      front ++ (left ++ right) :: back := by
  induction front with
  | nil => rfl
  | cons symbol front ih =>
    exact congrArg (symbol :: ·) ih

/-- The symbols of a piece: runs of its bytes that the vocabulary has. -/
def SymbolsOf
    (artifact : Artifact)
    (piece : Bytes)
    (symbols : List Bytes) : Prop :=
  ∃ runs : List Bytes,
    symbols = runs.map symbolOf ∧ runs.flatten = piece ∧
      ∀ run ∈ runs,
        run ≠ [] ∧ symbolOf run ∈ artifact.baseVocab.map Prod.snd

section

variable
    (loaded : Loaded artifact tokenizer)
    (wellFormed : WellFormed artifact)

include loaded wellFormed

/-- One merge joins two runs. -/
theorem Loaded.merge_symbolsOf
    {rank index : Nat}
    (best : tokenizer.bestMerge symbols = some (rank, index))
    (made : SymbolsOf artifact piece symbols) :
    SymbolsOf artifact piece (mergeAt index symbols) := by
  obtain ⟨runs, rfl, joined, known⟩ := made
  obtain ⟨front, left, right, back, shape, rfl, ranked⟩ :=
    bestMerge_pair best
  obtain ⟨frontRuns, otherRuns, rfl, rfl, otherEq⟩ :=
    List.map_eq_append_iff.mp shape
  obtain ⟨leftRun, moreRuns, rfl, rfl, moreEq⟩ :=
    List.map_eq_cons_iff.mp otherEq
  obtain ⟨rightRun, backRuns, rfl, rfl, rfl⟩ := List.map_eq_cons_iff.mp moreEq
  rw [shape, mergeAt_pair]
  refine ⟨frontRuns ++ (leftRun ++ rightRun) :: backRuns, ?_, ?_, ?_⟩
  · simp [symbolOf]
  · rw [← joined]
    simp
  · intro run listed
    rcases List.mem_append.mp listed with inFront | inBack
    · exact known run (List.mem_append_left _ inFront)
    · rcases List.mem_cons.mp inBack with rfl | later
      · have leftKnown := known leftRun (by simp)
        refine ⟨by simp [leftKnown.1], ?_⟩
        rw [loaded.ranks] at ranked
        obtain ⟨inside, key, -⟩ := List.findIdx?_eq_some_iff_getElem.mp ranked
        have same := pairKey_inj (symbolOf_zero_free leftRun)
          (symbolOf_zero_free rightRun) (of_decide_eq_true key)
        have result :=
          wellFormed.mergeResults _ (List.getElem_mem inside)
        rw [same.1, same.2] at result
        simpa [symbolOf] using result
      · exact known run (by simp [later])

theorem Loaded.mergeSymbols_symbolsOf
    (rounds : Nat)
    (made : SymbolsOf artifact piece symbols) :
    SymbolsOf artifact piece (tokenizer.mergeSymbols rounds symbols) := by
  induction rounds generalizing symbols with
  | zero => exact made
  | succ rounds ih =>
    rw [mergeSymbols]
    split
    · exact made
    · next rank index best =>
        exact ih
          (loaded.merge_symbolsOf wellFormed best made)

end

theorem symbolsOf_bytes
    (wellFormed : WellFormed artifact)
    (piece : Bytes) :
    SymbolsOf artifact piece (piece.map byteToSymbol) := by
  refine ⟨piece.map fun byte => [byte], ?_, ?_, ?_⟩
  · simp [symbolOf]
  · induction piece with
    | nil => rfl
    | cons byte piece ih => simp [ih]
  · intro run listed
    obtain ⟨byte, -, rfl⟩ := List.mem_map.mp listed
    refine ⟨by simp, ?_⟩
    simpa [symbolOf] using wellFormed.singleBytes byte

section

variable
    (loaded : Loaded artifact tokenizer)
    (wellFormed : WellFormed artifact)

include loaded wellFormed

theorem Loaded.symbolIds_symbolsOf
    (made : SymbolsOf artifact piece symbols) :
    ∃ ids,
      tokenizer.symbolIds symbols = .ok ids ∧
        tokenizer.decode false ids = .ok piece := by
  obtain ⟨runs, rfl, rfl, known⟩ := made
  induction runs with
  | nil => exact ⟨[], rfl, rfl⟩
  | cons run runs ih =>
    obtain ⟨nonempty, listed⟩ := known run List.mem_cons_self
    obtain ⟨id, found, returned⟩ :=
      loaded.knows wellFormed nonempty listed
    obtain ⟨ids, encoded, decoded⟩ :=
      ih fun other later =>
        known other (List.mem_cons_of_mem _ later)
    refine ⟨id :: ids, ?_, ?_⟩
    · rw [List.map_cons, symbolIds, found]
      simp only
      rw [encoded, ok_bind]
    · rw [decode, returned, ok_bind, decoded, ok_bind, List.flatten_cons]

theorem Loaded.piece_ids
    (piece : Bytes) :
    ∃ ids,
      tokenizer.symbolIds
          (tokenizer.mergeSymbols piece.length (piece.map byteToSymbol)) =
        .ok ids ∧
      tokenizer.decode false ids = .ok piece :=
  loaded.symbolIds_symbolsOf wellFormed
    (loaded.mergeSymbols_symbolsOf wellFormed _
      (symbolsOf_bytes wellFormed piece))

end

/-! ## Cutting at added tokens -/

/-- A part of a text and the ids it was given. -/
structure Segment where
  text : Bytes
  ids : List Nat
  deriving Repr, DecidableEq

/-- An added token with its id, or a pretoken with the ids of its symbols. -/
def Segment.Cut
    (tokenizer : Tokenizer)
    (segment : Segment) : Prop :=
  (∃ token ∈ tokenizer.addedTokens,
      segment.text = token.content ∧ segment.ids = [token.id]) ∨
    tokenizer.symbolIds
        (tokenizer.mergeSymbols segment.text.length
          (segment.text.map byteToSymbol)) = .ok segment.ids

/-- The segments of a text, none of which cuts a scalar. -/
structure Segments
    (tokenizer : Tokenizer)
    (text : Bytes)
    (segments : List Segment) : Prop where
  whole : segments.flatMap Segment.text = text
  cut : ∀ segment ∈ segments, segment.Cut tokenizer
  valid : ∀ segment ∈ segments, Valid segment.text

theorem Segments.append
    {front back : Bytes}
    {first second : List Segment}
    (before : Segments tokenizer front first)
    (after : Segments tokenizer back second) :
    Segments tokenizer (front ++ back) (first ++ second) where
  whole := by rw [List.flatMap_append, before.whole, after.whole]
  cut := by
    intro segment listed
    rcases List.mem_append.mp listed with earlier | later
    · exact before.cut segment earlier
    · exact after.cut segment later
  valid := by
    intro segment listed
    rcases List.mem_append.mp listed with earlier | later
    · exact before.valid segment earlier
    · exact after.valid segment later

/-- Text between added tokens is cut into its pretokens. -/
theorem Loaded.encodeStandard_segments
    (loaded : Loaded artifact tokenizer)
    (wellFormed : WellFormed artifact)
    {text : Bytes}
    (valid : Valid text) :
    ∃ segments,
      Segments tokenizer text segments ∧
        tokenizer.encodeStandard text =
          .ok (segments.flatMap Segment.ids) := by
  obtain ⟨pieces, split, rfl, piecesValid⟩ := splitPretokens_valid valid
  have pieceByPiece
      (pieces : List Bytes)
      (valid : ∀ piece ∈ pieces, Valid piece) :
      ∃ segments,
        Segments tokenizer pieces.flatten segments ∧
          tokenizer.encodePieces pieces =
            .ok (segments.flatMap Segment.ids) := by
    induction pieces with
    | nil => exact ⟨[], ⟨rfl, by simp, by simp⟩, rfl⟩
    | cons piece pieces ih =>
      obtain ⟨ids, encoded, -⟩ := loaded.piece_ids wellFormed piece
      obtain ⟨segments, cut, later⟩ :=
        ih fun other listed =>
          valid other (List.mem_cons_of_mem _ listed)
      have own : Segments tokenizer piece [⟨piece, ids⟩] := by
        refine ⟨by simp, ?_, ?_⟩
        · intro segment listed
          obtain rfl := List.mem_singleton.mp listed
          exact Or.inr encoded
        · intro segment listed
          obtain rfl := List.mem_singleton.mp listed
          exact valid piece List.mem_cons_self
      refine ⟨⟨piece, ids⟩ :: segments, own.append cut, ?_⟩
      rw [encodePieces, encoded, ok_bind, later, ok_bind,
        List.flatMap_cons]
  obtain ⟨segments, cut, encoded⟩ := pieceByPiece pieces piecesValid
  exact ⟨segments, cut, by rw [encodeStandard, split, ok_bind, encoded]⟩

theorem find_leads
    {needle text : Bytes}
    {place : Nat}
    (found : Bytes.find needle text = some place) :
    needle <+: text.drop place := by
  induction text generalizing place with
  | nil =>
    rw [Bytes.find] at found
    split at found
    · next empty =>
        rw [List.isEmpty_iff.mp empty]
        exact List.nil_prefix
    · contradiction
  | cons byte text ih =>
    rw [Bytes.find] at found
    split at found
    · next leads =>
        obtain rfl := Option.some.inj found
        exact List.isPrefixOf_iff_prefix.mp leads
    · obtain ⟨later, foundLater, rfl⟩ := Option.map_eq_some_iff.mp found
      exact ih foundLater

theorem nextAdded_found
    (tokenizer : Tokenizer)
    (text : Bytes) :
    tokenizer.nextAdded text = text.length ∨
      ∃ token ∈ tokenizer.addedTokens,
        Bytes.find token.content text = some (tokenizer.nextAdded text) := by
  have scan
      (step : Nat → AddedToken → Nat)
      (steps : ∀ next token, step next token = next ∨
        Bytes.find token.content text = some (step next token))
      (tokens : List AddedToken)
      (next : Nat) :
      tokens.foldl step next = next ∨
        ∃ token ∈ tokens,
          Bytes.find token.content text = some (tokens.foldl step next) := by
    induction tokens generalizing next with
    | nil => exact Or.inl rfl
    | cons token tokens ih =>
      rw [List.foldl_cons]
      rcases ih (step next token) with kept | ⟨later, listed, found⟩
      · rw [kept]
        exact (steps next token).imp_right fun found =>
          ⟨token, List.mem_cons_self, found⟩
      · exact Or.inr ⟨later, List.mem_cons_of_mem _ listed, found⟩
  unfold nextAdded
  refine scan _ (fun next token => ?_) tokenizer.addedTokens text.length
  cases found : Bytes.find token.content text with
  | none => exact Or.inl rfl
  | some place =>
    simp only
    split
    · exact Or.inr rfl
    · exact Or.inl rfl

theorem Loaded.encodeFrom_segments
    (loaded : Loaded artifact tokenizer)
    (wellFormed : WellFormed artifact)
    (rounds : Nat)
    {text : Bytes}
    (valid : Valid text)
    (enough : text.length ≤ rounds) :
    ∃ segments,
      Segments tokenizer text segments ∧
        tokenizer.encodeFrom rounds text =
          .ok (segments.flatMap Segment.ids) := by
  induction rounds generalizing text with
  | zero =>
    obtain rfl := List.length_eq_zero_iff.mp (Nat.le_zero.mp enough)
    exact ⟨[], ⟨rfl, by simp, by simp⟩, rfl⟩
  | succ rounds ih =>
    cases text with
    | nil => exact ⟨[], ⟨rfl, by simp, by simp⟩, rfl⟩
    | cons byte text =>
      have shorter (taken : Nat) (positive : 0 < taken) :
          ((byte :: text).drop taken).length ≤ rounds := by
        simp only [List.length_drop, List.length_cons] at enough ⊢
        omega
      cases matched : tokenizer.matchAdded (byte :: text) with
      | some token =>
        have listed := List.mem_of_find?_eq_some matched
        have contentValid :=
          wellFormed.contentsValid token (loaded.mem_table.mp listed)
        have leads : token.content <+: byte :: text :=
          List.isPrefixOf_iff_prefix.mp
            (List.find?_eq_some_iff_append.mp matched).1
        have joined := List.prefix_iff_eq_append.mp leads
        have restValid : Valid
            ((byte :: text).drop token.content.length) := by
          rw [← joined] at valid
          exact contentValid.rest valid
        obtain ⟨segments, cut, encoded⟩ :=
          ih restValid (shorter _ (List.length_pos_iff.mpr
            (tokenizer.addedNonempty token listed)))
        have own :
            Segments tokenizer token.content
              [⟨token.content, [token.id]⟩] := by
          refine ⟨by simp, ?_, ?_⟩
          · intro segment inOwn
            obtain rfl := List.mem_singleton.mp inOwn
            exact Or.inl ⟨token, listed, rfl, rfl⟩
          · intro segment inOwn
            obtain rfl := List.mem_singleton.mp inOwn
            exact contentValid
        have all := own.append cut
        rw [joined] at all
        refine ⟨_, all, ?_⟩
        rw [encodeFrom, matched]
        simp only
        rw [encoded, ok_bind]
        rfl
      | none =>
        have cutParts :
            0 < tokenizer.nextAdded (byte :: text) ∧
              Valid ((byte :: text).take
                (tokenizer.nextAdded (byte :: text))) ∧
              Valid ((byte :: text).drop
                (tokenizer.nextAdded (byte :: text))) := by
          rcases nextAdded_found tokenizer (byte :: text) with
            none_ | ⟨token, listed, found⟩
          · rw [none_, List.take_length, List.drop_length]
            exact ⟨by simp, valid, .nil⟩
          · have leads := find_leads found
            have nonempty := tokenizer.addedNonempty token listed
            have contentValid := wellFormed.contentsValid token
              (loaded.mem_table.mp listed)
            refine ⟨Nat.pos_of_ne_zero fun zero => ?_, ?_⟩
            · -- A token right here would have matched.
              rw [zero, List.drop_zero] at leads
              have unmatched := List.find?_eq_none.mp matched token listed
              exact unmatched (List.isPrefixOf_iff_prefix.mpr leads)
            · refine Utf8.Valid.cut (by rwa [List.take_append_drop]) ?_
              obtain ⟨lead, rest, contentEq⟩ :=
                List.exists_cons_of_ne_nil nonempty
              obtain ⟨behind, standing⟩ := leads
              rw [contentEq] at standing contentValid
              intro first head
              rw [← standing] at head
              obtain rfl : lead = first := by simpa using head
              exact contentValid.lead
        obtain ⟨moved, frontValid, backValid⟩ := cutParts
        obtain ⟨front, frontCut, frontEncoded⟩ :=
          loaded.encodeStandard_segments wellFormed frontValid
        obtain ⟨back, backCut, backEncoded⟩ :=
          ih backValid (shorter _ moved)
        have all := frontCut.append backCut
        rw [List.take_append_drop] at all
        refine ⟨front ++ back, all, ?_⟩
        rw [encodeFrom, matched]
        simp only
        rw [if_neg (by omega), frontEncoded, ok_bind, backEncoded,
          ok_bind, List.flatMap_append]

end Loaded

/--
A well-formed artifact whose added tokens have distinct ids: encoding a valid text
returns, it cuts the text into added tokens and pretokens without losing, doubling
or reordering anything or cutting a scalar, and decoding gives the text back.
-/
theorem encode_roundTrip
    {artifact : Artifact}
    {tokenizer : Tokenizer}
    (wellFormed : WellFormed artifact)
    (distinctIds : (artifact.added.map AddedToken.id).Nodup)
    (loads : load artifact = .ok tokenizer)
    {text : Bytes}
    (valid : Valid text) :
    ∃ segments,
      Segments tokenizer text segments ∧
        tokenizer.encode text = .ok (segments.flatMap Segment.ids) ∧
        tokenizer.decode false (segments.flatMap Segment.ids) = .ok text := by
  have loaded := load_loaded loads
  obtain ⟨segments, cut, encoded⟩ :=
    loaded.encodeFrom_segments wellFormed text.length valid (Nat.le_refl _)
  refine ⟨segments, cut, encoded, ?_⟩
  refine roundTrip_of_pieces
    (fun token listed => loaded.added distinctIds listed) ?_ text _ encoded
  intro piece ids pieceEncoded
  obtain ⟨own, ownEncoded, decoded⟩ := loaded.piece_ids wellFormed piece
  obtain rfl := Except.ok.inj (pieceEncoded.symm.trans ownEncoded)
  exact decoded

/-! ## A small artifact -/

theorem loadBase_returns
    {idLimit : Nat}
    {entries : List (Nat × Bytes)}
    {before : (Nat → Bytes) × (Nat → Bytes)}
    (distinct : (entries.map Prod.fst).Nodup)
    (within : ∀ entry ∈ entries, entry.1 < idLimit)
    (free : ∀ entry ∈ entries, before.1 entry.1 = [])
    (valid : ∀ entry ∈ entries, Valid entry.2) :
    ∃ after, loadBase idLimit entries before = .ok after := by
  induction entries generalizing before with
  | nil => exact ⟨before, rfl⟩
  | cons entry entries ih =>
    obtain ⟨id, symbol⟩ := entry
    obtain ⟨symbols, decoded⟩ := before
    have idWithin := within _ List.mem_cons_self
    have idFree := free _ List.mem_cons_self
    obtain ⟨chars, rfl⟩ := valid _ List.mem_cons_self
    simp only [List.map_cons, List.nodup_cons] at distinct idWithin idFree
    rw [loadBase, if_neg (by rw [not_or, not_not]; exact ⟨by omega, idFree⟩),
      decodeBaseSymbol, decodeUtf8_encode _ _ (Nat.le_refl _), ok_bind,
      ok_bind]
    refine ih distinct.2
      (fun other listed => within other (List.mem_cons_of_mem _ listed))
      (fun other listed => ?_)
      (fun other listed => valid other (List.mem_cons_of_mem _ listed))
    have different : other.1 ≠ id := by
      rintro rfl
      exact distinct.1 (List.mem_map_of_mem listed)
    simp only [Function.update_of_ne different]
    exact free other (List.mem_cons_of_mem _ listed)

theorem load_returns
    {artifact : Artifact}
    (dimensions :
      ¬ (artifact.baseVocab.length = 0 ∨ artifact.idLimit = 0 ∨
        artifact.idLimit ≤ artifact.bosTokenId ∨
        artifact.idLimit ≤ artifact.eosTokenId ∨
        artifact.idLimit ≤ artifact.userTokenId ∨
        artifact.idLimit ≤ artifact.assistantTokenId ∨
        artifact.idLimit ≤ artifact.thinkingStartTokenId ∨
        artifact.idLimit ≤ artifact.thinkingEndTokenId))
    (base :
      ∃ after,
        loadBase artifact.idLimit artifact.baseVocab
          (fun _ => [], fun _ => []) = .ok after)
    (valid :
      ∀ token ∈ artifact.added,
        token.id < artifact.idLimit ∧ token.content ≠ []) :
    ∃ tokenizer, load artifact = .ok tokenizer := by
  obtain ⟨⟨symbols, decoded⟩, entered⟩ := base
  rw [load, if_neg dimensions, entered, ok_bind]
  simp only
  rw [dif_pos valid]
  exact ⟨_, rfl⟩

/-- The byte symbols, one merge, and the given added tokens. -/
def byteArtifact (added : List AddedToken) : Artifact where
  baseVocab :=
    (List.range 256).map (fun byte => (byte, byteToSymbol byte.toUInt8)) ++
      [(256, bytes "hi")]
  idLimit := 300
  merges := [(bytes "h", bytes "i")]
  added := added
  bosTokenId := 0
  eosTokenId := 0
  userTokenId := 0
  assistantTokenId := 0
  thinkingStartTokenId := 0
  thinkingEndTokenId := 0

section

variable
    {added : List AddedToken}

theorem byteArtifact_wellFormed
    (contentsDistinct : (added.map AddedToken.content).Nodup)
    (contentsValid : ∀ token ∈ added, Valid token.content)
    (idsAbove : ∀ token ∈ added, 256 < token.id) :
    WellFormed (byteArtifact added) where
  singleBytes := by
    intro byte
    refine List.mem_map.mpr ⟨(byte.toNat, byteToSymbol byte), ?_, rfl⟩
    refine List.mem_append_left _ (List.mem_map.mpr ⟨byte.toNat, ?_, ?_⟩)
    · exact List.mem_range.mpr byte.toNat_lt
    · simp
  mergeResults := by
    intro merge listed
    obtain rfl := List.mem_singleton.mp listed
    refine List.mem_map.mpr ⟨(256, bytes "hi"), ?_, by decide⟩
    exact List.mem_append_right _ (List.mem_singleton_self _)
  symbolsDistinct := by
    rw [byteArtifact, List.map_append, List.map_map, List.nodup_append]
    refine ⟨?_, List.nodup_singleton _, ?_⟩
    · refine List.Nodup.map_on ?_ List.nodup_range
      intro one oneListed other otherListed same
      have oneSmall := List.mem_range.mp oneListed
      have otherSmall := List.mem_range.mp otherListed
      have chars := (Utf8.utf8EncodeChar_append_inj
        (congrArg (· ++ ([] : Bytes)) (by
          simpa [byteToSymbol_eq] using same))).1
      have points := congrArg Char.toNat chars
      rw [byteChar_toNat, byteChar_toNat] at points
      have equal := byteCodePoint_inj (UInt8.toNat_lt _) (UInt8.toNat_lt _)
        points
      simp only [UInt8.toNat_ofNat'] at equal
      omega
    · intro symbol listed merged atEnd same
      obtain ⟨byte, -, rfl⟩ := List.mem_map.mp listed
      obtain rfl := List.mem_singleton.mp atEnd
      have cut :
          String.utf8EncodeChar (byteChar byte.toUInt8) ++ [] =
            String.utf8EncodeChar 'h' ++ String.utf8EncodeChar 'i' := by
        rw [List.append_nil, ← byteToSymbol_eq]
        exact same
      exact String.utf8EncodeChar_ne_nil
        (Utf8.utf8EncodeChar_append_inj cut).2.symm
  symbolsValid := by
    intro entry listed
    rcases List.mem_append.mp listed with single | merged
    · obtain ⟨byte, -, rfl⟩ := List.mem_map.mp single
      exact ⟨[byteChar byte.toUInt8], by simp [byteToSymbol_eq]⟩
    · obtain rfl := List.mem_singleton.mp merged
      exact ⟨['h', 'i'], by decide⟩
  contentsDistinct := contentsDistinct
  contentsValid := contentsValid
  idsDisjoint := by
    intro entry listed token tokenListed
    have above := idsAbove token tokenListed
    rcases List.mem_append.mp listed with single | merged
    · obtain ⟨byte, inRange, rfl⟩ := List.mem_map.mp single
      have small := List.mem_range.mp inRange
      simp only
      omega
    · obtain rfl := List.mem_singleton.mp merged
      simp only
      omega

theorem byteArtifact_loads
    (valid : ∀ token ∈ added, token.id < 300 ∧ token.content ≠ []) :
    ∃ tokenizer, load (byteArtifact added) = .ok tokenizer := by
  have base :
      ∃ after,
        loadBase 300 (byteArtifact added).baseVocab
          (fun _ => [], fun _ => []) = .ok after := by
    refine loadBase_returns ?_ ?_ (fun _ _ => rfl) ?_
    · have ids :
          (byteArtifact added).baseVocab.map Prod.fst =
            List.range 256 ++ [256] := by
        rw [byteArtifact, List.map_append, List.map_map]
        exact congrArg (· ++ [256]) (List.map_id (List.range 256))
      rw [ids, ← List.range_succ]
      exact List.nodup_range
    · intro entry listed
      rcases List.mem_append.mp listed with single | merged
      · obtain ⟨byte, inRange, rfl⟩ := List.mem_map.mp single
        have small := List.mem_range.mp inRange
        simp only
        omega
      · obtain rfl := List.mem_singleton.mp merged
        decide
    · intro entry listed
      rcases List.mem_append.mp listed with single | merged
      · obtain ⟨byte, -, rfl⟩ := List.mem_map.mp single
        exact ⟨[byteChar byte.toUInt8], by simp [byteToSymbol_eq]⟩
      · obtain rfl := List.mem_singleton.mp merged
        exact ⟨['h', 'i'], by decide⟩
  exact load_returns (by simp [byteArtifact]) base valid

end

/-- A greeting with a special token in it comes back. -/
theorem greeting_roundTrip :
    ∃ (tokenizer : Tokenizer) (segments : List Segment),
      load (byteArtifact [⟨257, 1, bytes "<a>"⟩]) = .ok tokenizer ∧
        tokenizer.encode (bytes "hi<a>é") =
          .ok (segments.flatMap Segment.ids) ∧
        tokenizer.decode false (segments.flatMap Segment.ids) =
          .ok (bytes "hi<a>é") := by
  have wellFormed : WellFormed (byteArtifact [⟨257, 1, bytes "<a>"⟩]) :=
    byteArtifact_wellFormed (by simp)
      (by
        intro token listed
        obtain rfl := List.mem_singleton.mp listed
        exact ⟨['<', 'a', '>'], by decide⟩)
      (by simp)
  have returns :
      ∃ tokenizer,
        load (byteArtifact [⟨257, 1, bytes "<a>"⟩]) = .ok tokenizer :=
    byteArtifact_loads (by decide)
  have valid : Valid (bytes "hi<a>é") :=
    ⟨['h', 'i', '<', 'a', '>', 'é'], by decide⟩
  obtain ⟨tokenizer, loads⟩ := returns
  obtain ⟨segments, -, encoded, decoded⟩ :=
    encode_roundTrip wellFormed (by simp [byteArtifact]) loads valid
  exact ⟨tokenizer, segments, loads, encoded, decoded⟩

/-- Two added tokens of one id: the second text comes back as the first. -/
theorem shared_id_loses_text :
    ∃ artifact tokenizer,
      WellFormed artifact ∧ load artifact = .ok tokenizer ∧
        Valid (bytes "c") ∧
        tokenizer.encode (bytes "c") = .ok [257] ∧
        tokenizer.decode false [257] = .ok (bytes "ab") ∧
        bytes "ab" ≠ bytes "c" := by
  have wellFormed :
      WellFormed (byteArtifact [⟨257, 0, bytes "ab"⟩, ⟨257, 0, bytes "c"⟩]) :=
    byteArtifact_wellFormed (by decide)
      (by
        intro token listed
        simp only [List.mem_cons, List.not_mem_nil, or_false] at listed
        rcases listed with rfl | rfl
        · exact ⟨['a', 'b'], by decide⟩
        · exact ⟨['c'], by decide⟩)
      (by decide)
  have returns :
      ∃ tokenizer,
        load (byteArtifact [⟨257, 0, bytes "ab"⟩, ⟨257, 0, bytes "c"⟩]) =
          .ok tokenizer :=
    byteArtifact_loads (by decide)
  obtain ⟨tokenizer, loads⟩ := returns
  have loaded := load_loaded loads
  have table :
      tokenizer.addedTokens = [⟨257, 0, bytes "ab"⟩, ⟨257, 0, bytes "c"⟩] := by
    rw [loaded.table]
    exact List.mergeSort_of_pairwise (by decide)
  have matched :
      tokenizer.matchAdded (bytes "c") = some ⟨257, 0, bytes "c"⟩ := by
    rw [matchAdded, table]
    decide
  refine ⟨_, tokenizer, wellFormed, loads, ⟨['c'], by decide⟩, ?_, ?_,
    by decide⟩
  · have one : bytes "c" = [99] := by decide
    rw [one] at matched ⊢
    rw [encode, List.length_singleton, encodeFrom, matched]
    rfl
  · have named :
        tokenizer.decodeToken false 257 = .ok (bytes "ab") := by
      unfold decodeToken
      rw [loaded.limit, table]
      rfl
    rw [decode, named]
    rfl

end Aeon.Text.Tokenizer
