import Aeon.PromptJson
import Aeon.JsonTokens

namespace Aeon.Text.PromptJson

open Aeon.Json (Hex4 Token Tokens codePointBytes isHighSurrogate isLowSurrogate
  hexValue_bound high_offset)
open List (append_assoc cons_append drop_succ_cons drop_zero length_append length_cons)

/-!
# The string literals of the prompt codec

The codec takes the same escapes as the reader of requests, and any other byte as it
is.  A high surrogate takes the escape behind it, whatever that one holds, and a
surrogate on its own is encoded like any code point.
-/

/-- The codec takes every byte of a literal that is no quote and no backslash. -/
def AnyByte (_ : UInt8) : Prop :=
  True

/-- What a high surrogate makes with the unit behind it. -/
def merged (high low : Nat) : Nat :=
  0x10000 + (high - 0xd800) * 0x400 + low - 0xdc00

/-- The string the codec makes of a literal's parts. -/
def promptText : List Token → Bytes
  | [] => []
  | .byte value :: rest => value :: promptText rest
  | .unit high :: .unit low :: rest =>
    if isHighSurrogate high then
      codePointBytes (merged high low) ++ promptText rest
    else
      codePointBytes high ++ promptText (.unit low :: rest)
  | .unit code :: rest => codePointBytes code ++ promptText rest

variable {code : Nat}
variable {tokens : List Token}
variable {rest : Bytes}
variable {cursor after : Cursor}
variable {high low : Nat}

theorem promptText_unit
    (single : ∀ low rest, tokens = .unit low :: rest → isHighSurrogate code = false) :
    promptText (.unit code :: tokens) =
      codePointBytes code ++ promptText tokens := by
  match tokens with
  | [] => rfl
  | .byte value :: rest => rfl
  | .unit low :: rest =>
    rw [promptText, single low rest rfl, if_neg (by simp)]

/-! ## Machine words -/

theorem hexValue_eq_ofNat : ∀ value < 256,
    hexValue (UInt8.ofNat value) =
      (Json.hexValue (UInt8.ofNat value)).map UInt32.ofNat := by
  decide +kernel

/-- Both readers know the same digits. -/
theorem hexValue_eq (byte : UInt8) :
    hexValue byte = (Json.hexValue byte).map UInt32.ofNat := by
  have here := hexValue_eq_ofNat byte.toNat byte.toNat_lt
  rwa [UInt8.ofNat_toNat] at here

theorem shift_digit
    {code digit : Nat}
    (small : code < 0x1000)
    (isDigit : digit < 16) :
    (UInt32.ofNat code <<< 4) ||| UInt32.ofNat digit =
      UInt32.ofNat (code * 16 + digit) := by
  have shifted : code <<< 4 = code * 16 := Nat.shiftLeft_eq code 4
  have joins := Nat.shiftLeft_add_eq_or_of_lt (show digit < 2 ^ 4 from isDigit) code
  apply UInt32.toNat_inj.mp
  simp only [UInt32.toNat_or, UInt32.toNat_shiftLeft, UInt32.toNat_ofNat',
    UInt32.toNat_ofNat]
  rw [Nat.mod_eq_of_lt (show code < 2 ^ 32 by omega),
    Nat.mod_eq_of_lt (show digit < 2 ^ 32 by omega)]
  norm_num
  rw [Nat.mod_eq_of_lt (show code <<< 4 < 4294967296 by omega), ← joins, shifted,
    Nat.mod_eq_of_lt (by omega)]

theorem mark_bits
    {mark shift width bits : Nat}
    (isMark : mark * 2 ^ width < 256)
    (fits : bits / 2 ^ shift < 2 ^ width)
    (small : bits < 2 ^ 32)
    (near : shift < 32) :
    (UInt32.ofNat (mark * 2 ^ width) |||
        (UInt32.ofNat bits >>> UInt32.ofNat shift)).toUInt8 =
      UInt8.ofNat (mark * 2 ^ width + bits / 2 ^ shift) := by
  have joins := Nat.shiftLeft_add_eq_or_of_lt fits mark
  rw [Nat.shiftLeft_eq] at joins
  apply UInt8.toNat_inj.mp
  simp only [UInt32.toNat_toUInt8, UInt32.toNat_or, UInt32.toNat_shiftRight,
    UInt32.toNat_ofNat', UInt8.toNat_ofNat']
  rw [Nat.mod_eq_of_lt (show mark * 2 ^ width < 2 ^ 32 by omega),
    Nat.mod_eq_of_lt small, Nat.mod_eq_of_lt (show shift < 2 ^ 32 by omega),
    Nat.mod_eq_of_lt near, Nat.shiftRight_eq_div_pow, ← joins]

/-- A continuation byte of an encoding. -/
theorem tail_bits
    {shift bits : Nat}
    (small : bits < 2 ^ 32)
    (near : shift < 32) :
    (0x80 ||| ((UInt32.ofNat bits >>> UInt32.ofNat shift) &&& 0x3f)).toUInt8 =
      UInt8.ofNat (0x80 + bits / 2 ^ shift % 0x40) := by
  have joins := Nat.shiftLeft_add_eq_or_of_lt
    (Nat.mod_lt (bits / 2 ^ shift) (show 2 ^ 6 > 0 by decide)) 2
  have masked := Nat.and_two_pow_sub_one_eq_mod (bits / 2 ^ shift) 6
  apply UInt8.toNat_inj.mp
  simp only [UInt32.toNat_toUInt8, UInt32.toNat_or, UInt32.toNat_and,
    UInt32.toNat_shiftRight, UInt32.toNat_ofNat', UInt8.toNat_ofNat',
    UInt32.toNat_ofNat]
  rw [Nat.mod_eq_of_lt small, Nat.mod_eq_of_lt (show shift < 2 ^ 32 by omega),
    Nat.mod_eq_of_lt near, Nat.shiftRight_eq_div_pow]
  rw [Nat.shiftLeft_eq] at joins
  norm_num at joins masked ⊢
  rw [masked, ← joins]

theorem encodeEscape_ofNat
    (bound : code < 0x200000) :
    encodeEscape (UInt32.ofNat code) = codePointBytes code := by
  have small : code < 2 ^ 32 := by omega
  have below (limit : Nat) (isWord : limit < 2 ^ 32) :
      UInt32.ofNat code < UInt32.ofNat limit ↔ code < limit := by
    rw [UInt32.lt_iff_toNat_lt, UInt32.toNat_ofNat', UInt32.toNat_ofNat',
      Nat.mod_eq_of_lt small, Nat.mod_eq_of_lt isWord]
  have tail (shift : Nat) (near : shift < 32) := @tail_bits shift code small near
  unfold encodeEscape codePointBytes
  simp only [show (0x80 : UInt32) = UInt32.ofNat 0x80 from rfl,
    show (0x800 : UInt32) = UInt32.ofNat 0x800 from rfl,
    show (0x10000 : UInt32) = UInt32.ofNat 0x10000 from rfl,
    below 0x80 (by decide), below 0x800 (by decide), below 0x10000 (by decide)]
  by_cases one : code < 0x80
  · rw [if_pos one, if_pos (show code ≤ 0x7f by omega)]
    congr 1
    apply UInt8.toNat_inj.mp
    simp only [UInt32.toNat_toUInt8, UInt32.toNat_ofNat', UInt8.toNat_ofNat']
    omega
  · rw [if_neg one, if_neg (show ¬ code ≤ 0x7f by omega)]
    by_cases two : code < 0x800
    · have lead := @mark_bits 6 6 5 code (by decide) (by omega) small (by decide)
      rw [if_pos two, if_pos (show code ≤ 0x7ff by omega)]
      exact List.cons_eq_cons.mpr ⟨lead, List.cons_eq_cons.mpr
        ⟨tail 0 (by decide), rfl⟩⟩
    · rw [if_neg two, if_neg (show ¬ code ≤ 0x7ff by omega)]
      by_cases three : code < 0x10000
      · have lead := @mark_bits 14 12 4 code (by decide) (by omega) small (by decide)
        rw [if_pos three, if_pos (show code ≤ 0xffff by omega)]
        exact List.cons_eq_cons.mpr ⟨lead, List.cons_eq_cons.mpr
          ⟨tail 6 (by decide), List.cons_eq_cons.mpr ⟨tail 0 (by decide), rfl⟩⟩⟩
      · have lead := @mark_bits 30 18 3 code (by decide) (by omega) small (by decide)
        rw [if_neg three, if_neg (show ¬ code ≤ 0xffff by omega)]
        exact List.cons_eq_cons.mpr ⟨lead, List.cons_eq_cons.mpr
          ⟨tail 12 (by decide), List.cons_eq_cons.mpr ⟨tail 6 (by decide),
            List.cons_eq_cons.mpr ⟨tail 0 (by decide), rfl⟩⟩⟩⟩

/-! ## Escapes -/

/-- Cursors over the same text are skipped alike. -/
theorem skip_rest
    (cursor : Cursor)
    {front rest : Bytes}
    (here : cursor.rest = front ++ rest) :
    (cursor.skip front.length).rest = rest := by
  simp [Cursor.skip, here]

theorem parseHex_succ
    {digits : Nat}
    (small : code < 0x1000)
    (cursor : Cursor)
    {byte : UInt8}
    (here : cursor.rest = byte :: rest)
    {digit : Nat}
    (value : Json.hexValue byte = some digit) :
    parseHex (digits + 1) (UInt32.ofNat code) cursor =
      parseHex digits (UInt32.ofNat (code * 16 + digit)) (cursor.skip 1) := by
  rw [parseHex, here]
  simp only [hexValue_eq, value, Option.map_some]
  rw [shift_digit small (hexValue_bound value)]

/-- Four digits are read, whatever follows. -/
theorem parseHex_digits
    {digits : Bytes}
    (spells : Hex4 digits code)
    (cursor : Cursor)
    (here : cursor.rest = digits ++ rest) :
    parseHex 4 0 cursor = .ok (UInt32.ofNat code, cursor.skip 4) := by
  cases spells with
  | @digits first second third fourth a b c d firstValue secondValue thirdValue
      fourthValue =>
      have aBound := hexValue_bound firstValue
      have bBound := hexValue_bound secondValue
      have cBound := hexValue_bound thirdValue
      have skip (count : Nat) : (cursor.skip count).skip 1 = cursor.skip (count + 1) := by
        simp [Cursor.skip, Nat.add_assoc]
      have behind (count : Nat) :
          (cursor.skip count).rest =
            ([first, second, third, fourth] ++ rest).drop count := by
        rw [Cursor.skip, here]
      rw [show (0 : UInt32) = UInt32.ofNat 0 from rfl,
        parseHex_succ (by decide) cursor here firstValue,
        parseHex_succ (by omega) _ (behind 1) secondValue, skip,
        parseHex_succ (by omega) _ (behind 2) thirdValue, skip,
        parseHex_succ (by omega) _ (behind 3) fourthValue, skip, parseHex]
      simp

theorem parseHex_ok
    {digits : Nat}
    {codePoint read : UInt32}
    (parsed : parseHex (digits + 1) codePoint cursor = .ok (read, after)) :
    ∃ byte rest digit,
      cursor.rest = byte :: rest ∧ Json.hexValue byte = some digit ∧
        parseHex digits ((codePoint <<< 4) ||| UInt32.ofNat digit) (cursor.skip 1) =
          .ok (read, after) := by
  rw [parseHex] at parsed
  split at parsed
  · cases parsed
  · next byte rest here =>
      rw [hexValue_eq] at parsed
      cases value : Json.hexValue byte with
      | none =>
        rw [value] at parsed
        cases parsed
      | some digit =>
        rw [value] at parsed
        exact ⟨byte, rest, digit, here, value, parsed⟩

theorem parseHex_four
    {read : UInt32}
    (parsed : parseHex 4 0 cursor = .ok (read, after)) :
    ∃ digits code,
      Hex4 digits code ∧ cursor.rest = digits ++ after.rest ∧
        read = UInt32.ofNat code ∧ after = cursor.skip 4 := by
  have again := parsed
  obtain ⟨first, _, a, here, firstValue, parsed⟩ := parseHex_ok parsed
  obtain ⟨second, _, b, here2, secondValue, parsed⟩ := parseHex_ok parsed
  obtain ⟨third, _, c, here3, thirdValue, parsed⟩ := parseHex_ok parsed
  obtain ⟨fourth, rest, d, here4, fourthValue, -⟩ := parseHex_ok parsed
  have spells := Hex4.digits firstValue secondValue thirdValue fourthValue
  have shape : cursor.rest = [first, second, third, fourth] ++ rest := by
    simp only [Cursor.skip, here, drop_succ_cons, drop_zero] at here2
    simp only [Cursor.skip, here, here2, drop_succ_cons, drop_zero] at here3
    simp only [Cursor.skip, here, here2, here3, drop_succ_cons,
      drop_zero] at here4
    rw [here, here2, here3, here4]
    rfl
  have known := parseHex_digits spells cursor shape
  rw [known] at again
  simp only [Except.ok.injEq, Prod.mk.injEq] at again
  obtain ⟨rfl, rfl⟩ := again
  refine ⟨_, _, spells, ?_, rfl, rfl⟩
  rw [shape]
  simp [Cursor.skip, shape]

/-- The scalar of a pair, as the codec computes it in 32 bits. -/
theorem merged_word
    (isHigh : isHighSurrogate high = true)
    (lowBound : low < 0x10000) :
    0x10000 + (UInt32.ofNat high - 0xd800) <<< (10 : UInt32) +
        (UInt32.ofNat low - 0xdc00) =
      UInt32.ofNat (merged high low) := by
  obtain ⟨above, near⟩ := high_offset isHigh
  have highWord : UInt32.ofNat high - 0xd800 = UInt32.ofNat (high - 0xd800) := by
    apply UInt32.toNat_inj.mp
    simp only [UInt32.toNat_sub, UInt32.toNat_ofNat', UInt32.toNat_ofNat]
    omega
  have shifted : UInt32.ofNat (high - 0xd800) <<< (10 : UInt32) =
      UInt32.ofNat ((high - 0xd800) * 0x400) := by
    apply UInt32.toNat_inj.mp
    simp only [UInt32.toNat_shiftLeft, UInt32.toNat_ofNat', UInt32.toNat_ofNat,
      Nat.shiftLeft_eq]
    norm_num
  have value : merged high low =
      0x10000 + (high - 0xd800) * 0x400 + low - 0xdc00 := rfl
  generalize merged high low = scalar at value ⊢
  rw [highWord, shifted]
  apply UInt32.toNat_inj.mp
  simp only [UInt32.toNat_add, UInt32.toNat_sub, UInt32.toNat_ofNat',
    UInt32.toNat_ofNat]
  omega

/-- A merged pair is within the encoder's range. -/
theorem merged_bound
    (isHigh : isHighSurrogate high = true)
    (lowBound : low < 0x10000) :
    0x2400 ≤ merged high low ∧ merged high low < 0x200000 := by
  obtain ⟨above, near⟩ := high_offset isHigh
  unfold merged
  omega

theorem isHigh_word
    (bound : code < 0x10000) :
    (0xd800 ≤ UInt32.ofNat code && UInt32.ofNat code ≤ 0xdbff) =
      isHighSurrogate code := by
  have word : (UInt32.ofNat code).toNat = code := by
    rw [UInt32.toNat_ofNat']
    omega
  simp [isHighSurrogate, UInt32.le_iff_toNat_le, word]

/-- A unit that takes no escape with it is read. -/
theorem parseUnicodeEscape_one
    {digits : Bytes}
    (spells : Hex4 digits code)
    (cursor : Cursor)
    (here : cursor.rest = digits ++ rest)
    (single : isHighSurrogate code = true →
      ¬ (6 ≤ rest.length ∧ (bytes "\\u").isPrefixOf rest = true)) :
    parseUnicodeEscape cursor = .ok (codePointBytes code, cursor.skip 4) := by
  have bound := spells.bound
  have length := spells.length
  have behind : (cursor.skip 4).rest = rest := by
    rw [← length]
    exact skip_rest cursor here
  have enough : ¬ cursor.rest.length < 4 := by
    rw [here, length_append]
    omega
  rw [parseUnicodeEscape, if_neg enough, parseHex_digits spells cursor here, ok_bind]
  simp only [isHigh_word bound, behind]
  rw [if_neg, encodeEscape_ofNat (by omega)]
  intro joins
  simp only [Bool.and_eq_true, decide_eq_true_eq] at joins
  exact single joins.1.1 ⟨joins.1.2, joins.2⟩

theorem parseUnicodeEscape_two
    {highDigits lowDigits : Bytes}
    (spellsHigh : Hex4 highDigits high)
    (isHigh : isHighSurrogate high = true)
    (spellsLow : Hex4 lowDigits low)
    (cursor : Cursor)
    (here : cursor.rest = highDigits ++ 0x5c :: 0x75 :: (lowDigits ++ rest)) :
    parseUnicodeEscape cursor =
      .ok (codePointBytes (merged high low), ((cursor.skip 4).skip 2).skip 4) := by
  have highBound := spellsHigh.bound
  have lowBound := spellsLow.bound
  have behind : (cursor.skip 4).rest = 0x5c :: 0x75 :: (lowDigits ++ rest) := by
    rw [← spellsHigh.length]
    exact skip_rest cursor here
  have second : ((cursor.skip 4).skip 2).rest = lowDigits ++ rest :=
    @skip_rest (cursor.skip 4) [0x5c, 0x75] (lowDigits ++ rest) behind
  have enough : ¬ cursor.rest.length < 4 := by
    rw [here, length_append, spellsHigh.length]
    omega
  have marked : (bytes "\\u").isPrefixOf (0x5c :: 0x75 :: (lowDigits ++ rest)) =
      true := by
    rw [Json.bytes_unicode]
    simp [List.isPrefixOf]
  have long : 6 ≤ (0x5c :: 0x75 :: (lowDigits ++ rest) : Bytes).length := by
    simp only [length_cons, length_append, spellsLow.length]
    omega
  rw [parseUnicodeEscape, if_neg enough, parseHex_digits spellsHigh cursor here,
    ok_bind]
  simp only [isHigh_word highBound, behind, marked, long, isHigh, decide_true,
    Bool.and_self, if_true]
  rw [parseHex_digits spellsLow _ second, ok_bind]
  simp only [merged_word isHigh lowBound]
  rw [encodeEscape_ofNat (merged_bound isHigh lowBound).2]

theorem parseUnicodeEscape_ok
    {encoded : Bytes}
    (parsed : parseUnicodeEscape cursor = .ok (encoded, after)) :
    (∃ digits code,
      Hex4 digits code ∧ cursor.rest = digits ++ after.rest ∧
        encoded = codePointBytes code ∧
        (isHighSurrogate code = true →
          ¬ (6 ≤ after.rest.length ∧
            (bytes "\\u").isPrefixOf after.rest = true))) ∨
      ∃ highDigits high lowDigits low,
        Hex4 highDigits high ∧ isHighSurrogate high = true ∧ Hex4 lowDigits low ∧
          cursor.rest = highDigits ++ 0x5c :: 0x75 :: (lowDigits ++ after.rest) ∧
          encoded = codePointBytes (merged high low) := by
  have again := parsed
  rw [parseUnicodeEscape] at parsed
  split at parsed
  · cases parsed
  · obtain ⟨⟨read, middle⟩, readHigh, parsed⟩ := bind_eq_ok.mp parsed
    obtain ⟨digits, code, spells, here, rfl, rfl⟩ := parseHex_four readHigh
    simp only [isHigh_word spells.bound] at parsed
    split at parsed
    · next joins =>
        simp only [Bool.and_eq_true, decide_eq_true_eq] at joins
        obtain ⟨⟨isHigh, -⟩, marked⟩ := joins
        obtain ⟨⟨readLow, behind⟩, lowRead, -⟩ := bind_eq_ok.mp parsed
        obtain ⟨lowDigits, low, spellsLow, lowHere, -, rfl⟩ := parseHex_four lowRead
        have shape : (cursor.skip 4).rest = 0x5c :: 0x75 :: (lowDigits ++
            (((cursor.skip 4).skip 2).skip 4).rest) := by
          rw [Json.bytes_unicode] at marked
          obtain ⟨tail, split⟩ := List.isPrefixOf_iff_prefix.mp marked
          have dropped : ((cursor.skip 4).rest).drop 2 = lowDigits ++
              (((cursor.skip 4).skip 2).skip 4).rest := lowHere
          rw [← split] at dropped ⊢
          simpa using dropped
        rw [shape] at here
        have known := parseUnicodeEscape_two spells isHigh spellsLow cursor here
        rw [known] at again
        simp only [Except.ok.injEq, Prod.mk.injEq] at again
        obtain ⟨rfl, rfl⟩ := again
        exact Or.inr ⟨digits, code, lowDigits, low, spells, isHigh, spellsLow, here,
          rfl⟩
    · next single =>
        simp only [Bool.and_eq_true, decide_eq_true_eq] at single
        simp only [Except.ok.injEq, Prod.mk.injEq] at parsed
        obtain ⟨rfl, rfl⟩ := parsed
        refine Or.inl ⟨digits, code, spells, here,
          encodeEscape_ofNat (by have := spells.bound; omega), ?_⟩
        exact fun isHigh joins => single ⟨⟨isHigh, joins.1⟩, joins.2⟩

/-! ## Bodies -/

/-- Both readers know the same one-byte escapes. -/
theorem simpleEscape_eq (escape : UInt8) :
    simpleEscape escape = Json.simpleEscape escape :=
  rfl

/-- The codec reads a body, whatever follows its closing quote. -/
theorem parseStringBody_tokens
    {body : Bytes}
    (isBody : Tokens AnyByte body tokens)
    {rounds : Nat}
    (enough : body.length < rounds)
    (out : Bytes)
    (cursor : Cursor)
    (here : cursor.rest = body ++ 0x22 :: rest) :
    ∃ after, parseStringBody rounds out cursor = .ok (out ++ promptText tokens, after) ∧
      after.rest = rest := by
  have escaped {rounds : Nat} {out body encoded : Bytes} {cursor middle : Cursor}
      (here : cursor.rest = 0x5c :: 0x75 :: body)
      (parsed : parseUnicodeEscape ((cursor.skip 1).skip 1) = .ok (encoded, middle)) :
      parseStringBody (rounds + 1) out cursor =
        parseStringBody rounds (out ++ encoded) middle := by
    rw [parseStringBody, here]
    simp only [show ¬ ((0x5c : UInt8) = 0x22) by decide, if_false, ne_eq, not_true,
      show simpleEscape 0x75 = none by decide, if_true, parsed, ok_bind]
  have twice (cursor : Cursor) {body : Bytes}
      (here : cursor.rest = 0x5c :: 0x75 :: body) :
      ((cursor.skip 1).skip 1).rest = body := by
    simp [Cursor.skip, here]
  induction tokens using promptText.induct generalizing body rounds out cursor with
  | case1 =>
    cases isBody
    obtain ⟨rounds, rfl⟩ : ∃ fewer, rounds = fewer + 1 := ⟨rounds - 1, by omega⟩
    refine ⟨cursor.skip 1, ?_, ?_⟩
    · rw [parseStringBody, here]
      simp [promptText]
    · simp [Cursor.skip, here]
  | case2 value tokens ih =>
    cases isBody with
    | plain allows unquoted unescaped isRest =>
      rw [length_cons] at enough
      obtain ⟨rounds, rfl⟩ : ∃ fewer, rounds = fewer + 1 := ⟨rounds - 1, by omega⟩
      obtain ⟨after, parsed, ends⟩ :=
        ih isRest (by omega : _ < rounds) (out ++ [value])
          (cursor.skip 1) (by simp [Cursor.skip, here])
      refine ⟨after, ?_, ends⟩
      rw [parseStringBody, here, cons_append]
      simp only [unquoted, if_false, ne_eq, unescaped, not_false_iff, if_true, parsed]
      simp [promptText]
    | @simple escape _ body _ isEscape isRest =>
      rw [length_cons, length_cons] at enough
      obtain ⟨rounds, rfl⟩ : ∃ fewer, rounds = fewer + 1 := ⟨rounds - 1, by omega⟩
      obtain ⟨after, parsed, ends⟩ :=
        ih isRest (by omega : _ < rounds) (out ++ [value])
          ((cursor.skip 1).skip 1) (by simp [Cursor.skip, here])
      refine ⟨after, ?_, ends⟩
      rw [parseStringBody, here, cons_append, cons_append]
      simp only [show ¬ ((0x5c : UInt8) = 0x22) by decide, if_false, ne_eq, not_true,
        simpleEscape_eq, isEscape, parsed]
      simp [promptText]
  | case3 high low tokens isHigh ih =>
    obtain ⟨digits, body, rfl, spellsHigh, isBody⟩ := isBody.unit_shape
    obtain ⟨lowDigits, body, rfl, spellsLow, isBody⟩ := isBody.unit_shape
    simp only [length_cons, length_append] at enough
    obtain ⟨rounds, rfl⟩ : ∃ fewer, rounds = fewer + 1 := ⟨rounds - 1, by omega⟩
    have shape : cursor.rest = 0x5c :: 0x75 :: (digits ++
        0x5c :: 0x75 :: (lowDigits ++ (body ++ 0x22 :: rest))) := by
      rw [here]
      simp
    have parsed := parseUnicodeEscape_two spellsHigh isHigh spellsLow _
      (twice cursor shape)
    have behind : ((((((cursor.skip 1).skip 1).skip 4).skip 2).skip 4)).rest =
        body ++ 0x22 :: rest := by
      have four := spellsHigh.length
      have fourLow := spellsLow.length
      simp only [Cursor.skip, shape, drop_succ_cons, drop_zero]
      rw [← four, List.drop_left, drop_succ_cons, drop_succ_cons,
        drop_zero, four, ← fourLow, List.drop_left]
    obtain ⟨after, loop, ends⟩ :=
      ih isBody (by omega : _ < rounds)
        (out ++ codePointBytes (merged high low)) _ behind
    refine ⟨after, ?_, ends⟩
    rw [escaped shape parsed, loop, promptText, if_pos isHigh, append_assoc]
  | case4 high low tokens single ih =>
    obtain ⟨digits, body, rfl, spellsHigh, isBody⟩ := isBody.unit_shape
    simp only [length_cons, length_append] at enough
    obtain ⟨rounds, rfl⟩ : ∃ fewer, rounds = fewer + 1 := ⟨rounds - 1, by omega⟩
    have shape : cursor.rest =
        0x5c :: 0x75 :: (digits ++ (body ++ 0x22 :: rest)) := by
      rw [here]
      simp
    have parsed := parseUnicodeEscape_one spellsHigh _ (twice cursor shape)
      fun isHigh => absurd isHigh single
    obtain ⟨after, loop, ends⟩ :=
      ih isBody (by omega : _ < rounds) (out ++ codePointBytes high)
        (((cursor.skip 1).skip 1).skip 4)
        (by rw [← spellsHigh.length]; exact skip_rest _ (twice cursor shape))
    refine ⟨after, ?_, ends⟩
    rw [escaped shape parsed, loop, promptText, if_neg single, append_assoc]
  | case5 code tokens notUnit ih =>
    obtain ⟨digits, body, rfl, spells, isBody⟩ := isBody.unit_shape
    simp only [length_cons, length_append] at enough
    obtain ⟨rounds, rfl⟩ : ∃ fewer, rounds = fewer + 1 := ⟨rounds - 1, by omega⟩
    have shape : cursor.rest =
        0x5c :: 0x75 :: (digits ++ (body ++ 0x22 :: rest)) := by
      rw [here]
      simp
    have parsed := parseUnicodeEscape_one spells _ (twice cursor shape) (by
      rintro - ⟨-, marked⟩
      obtain ⟨tail, rfl⟩ := Json.marked_of_prefix marked
      obtain ⟨low, others, isUnit⟩ := isBody.unit_first
      exact notUnit low others isUnit)
    obtain ⟨after, loop, ends⟩ :=
      ih isBody (by omega : _ < rounds) (out ++ codePointBytes code)
        (((cursor.skip 1).skip 1).skip 4)
        (by rw [← spells.length]; exact skip_rest _ (twice cursor shape))
    refine ⟨after, ?_, ends⟩
    rw [escaped shape parsed, loop,
      promptText_unit fun low others isUnit => absurd isUnit (notUnit low others),
      append_assoc]

/-- What the loop reads is a body and its closing quote. -/
theorem parseStringBody_ok
    {rounds : Nat}
    {out text : Bytes}
    (parsed : parseStringBody rounds out cursor = .ok (text, after)) :
    ∃ body tokens,
      Tokens AnyByte body tokens ∧ text = out ++ promptText tokens ∧
        cursor.rest = body ++ 0x22 :: after.rest := by
  induction rounds generalizing out cursor with
  | zero => cases parsed
  | succ rounds ih =>
    rw [parseStringBody] at parsed
    split at parsed
    · cases parsed
    · next byte rest here =>
        have skipped : (cursor.skip 1).rest = rest := by simp [Cursor.skip, here]
        simp only at parsed
        split at parsed
        · next quote =>
            cases parsed
            subst quote
            exact ⟨[], [], .done, by simp [promptText], by simpa [skipped] using here⟩
        · next unquoted =>
            split at parsed
            · next unescaped =>
                obtain ⟨body, tokens, isBody, rfl, shape⟩ := ih parsed
                refine ⟨byte :: body, .byte byte :: tokens,
                  .plain trivial unquoted unescaped isBody, by simp [promptText], ?_⟩
                rw [here, ← skipped, shape]
                rfl
            · next escape =>
                obtain rfl : byte = 0x5c := by simpa using escape
                split at parsed
                · cases parsed
                · next escaped behind =>
                    have behindShape : ((cursor.skip 1).skip 1).rest = behind := by
                      simp [Cursor.skip, here]
                    split at parsed
                    · next plain isEscape =>
                        obtain ⟨body, tokens, isBody, rfl, shape⟩ :=
                          ih parsed
                        refine ⟨0x5c :: escaped :: body, .byte plain :: tokens,
                          .simple isEscape isBody, by simp [promptText], ?_⟩
                        rw [here, ← behindShape, shape]
                        rfl
                    · split at parsed
                      · next isUnicode =>
                          subst isUnicode
                          obtain ⟨⟨encoded, middle⟩, unit, parsed⟩ :=
                            bind_eq_ok.mp parsed
                          obtain ⟨body, tokens, isBody, rfl, shape⟩ :=
                            ih parsed
                          rw [here, ← behindShape]
                          rcases parseUnicodeEscape_ok unit with
                            ⟨digits, code, spells, digitShape, encodes, single⟩ |
                            ⟨digits, high, lowDigits, low, spellsHigh, isHigh,
                              spellsLow, digitShape, encodes⟩
                          · refine ⟨_, _, .unicode spells isBody, ?_, ?_⟩
                            · rw [promptText_unit, encodes, append_assoc]
                              rintro other others rfl
                              obtain ⟨otherDigits, tail, rfl, spellsOther, -⟩ :=
                                isBody.unit_shape
                              by_contra isHigh
                              refine single (by simpa using isHigh) ⟨?_, ?_⟩
                              · rw [shape]
                                simp only [length_append, length_cons,
                                  spellsOther.length]
                                omega
                              · rw [shape, Json.bytes_unicode]
                                simp [List.isPrefixOf]
                            · rw [digitShape, shape]
                              simp
                          · refine ⟨_, _, .unicode spellsHigh
                              (.unicode spellsLow isBody), ?_, ?_⟩
                            · rw [promptText, if_pos isHigh, encodes,
                                append_assoc]
                            · rw [digitShape, shape]
                              simp
                      · cases parsed

/-- The codec reads a literal, whatever follows. -/
theorem parseString_tokens
    {body : Bytes}
    (isBody : Tokens AnyByte body tokens)
    (cursor : Cursor)
    (here : cursor.rest = 0x22 :: (body ++ 0x22 :: rest)) :
    ∃ after, parseString cursor = .ok (promptText tokens, after) ∧
      after.rest = rest := by
  have opened : (cursor.skip 1).rest = body ++ 0x22 :: rest := by
    simp [Cursor.skip, here]
  obtain ⟨after, parsed, ends⟩ :=
    parseStringBody_tokens isBody
      (show body.length < (cursor.skip 1).rest.length + 1 by simp [opened])
      [] (cursor.skip 1) opened
  refine ⟨after, ?_, ends⟩
  have expected : expect cursor 0x22 = .ok (cursor.skip 1) := by simp [expect, here]
  rw [parseString, expected, ok_bind, parsed, List.nil_append]

/-- What the codec reads is a literal. -/
theorem parseString_ok
    {text : Bytes}
    (parsed : parseString cursor = .ok (text, after)) :
    ∃ body tokens,
      Tokens AnyByte body tokens ∧ text = promptText tokens ∧
        cursor.rest = 0x22 :: (body ++ 0x22 :: after.rest) := by
  unfold parseString expect at parsed
  split at parsed
  · next opens =>
      rw [ok_bind] at parsed
      obtain ⟨body, tokens, isBody, shape, ends⟩ := parseStringBody_ok parsed
      refine ⟨body, tokens, isBody, by simpa using shape, ?_⟩
      obtain ⟨tail, here⟩ := List.head?_eq_some_iff.mp opens
      rw [Cursor.skip, here] at ends
      rw [here]
      exact congrArg _ ends
  · cases parsed

end Aeon.Text.PromptJson
