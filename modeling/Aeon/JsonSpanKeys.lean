import Aeon.JsonSpan

namespace Aeon.JsonSpan

open Json (Hex4 StringBody Unpaired hexValue simpleEscape isHighSurrogate
  isLowSurrogate unpaired codePointBytes)

/-!
# What a key literal spells

The scanner's decoder and the reader write code points above the ASCII range
differently: the decoder keeps stray surrogates and cuts a four-byte character short.
Every such piece holds a byte above the range in both, so the two never disagree
about an ASCII key.
-/

/-- Only bytes of the ASCII range. -/
def Ascii (text : Bytes) : Prop :=
  ∀ byte ∈ text, byte < 0x80

/-- The texts are the same, or neither is ASCII. -/
def Agree (decoded text : Bytes) : Prop :=
  decoded = text ∨ ¬ Ascii decoded ∧ ¬ Ascii text

theorem Agree.refl (text : Bytes) : Agree text text :=
  Or.inl rfl

theorem Ascii.of_append
    {first second : Bytes}
    (ascii : Ascii (first ++ second)) :
    Ascii first ∧ Ascii second :=
  ⟨fun byte listed => ascii byte (List.mem_append_left second listed),
    fun byte listed => ascii byte (List.mem_append_right first listed)⟩

theorem Agree.append
    {decoded text moreDecoded moreText : Bytes}
    (first : Agree decoded text)
    (second : Agree moreDecoded moreText) :
    Agree (decoded ++ moreDecoded) (text ++ moreText) := by
  rcases first with rfl | ⟨beyondDecoded, beyondText⟩
  · rcases second with rfl | ⟨beyondDecoded, beyondText⟩
    · exact Or.inl rfl
    · exact Or.inr ⟨fun ascii => beyondDecoded ascii.of_append.2,
        fun ascii => beyondText ascii.of_append.2⟩
  · exact Or.inr ⟨fun ascii => beyondDecoded ascii.of_append.1,
      fun ascii => beyondText ascii.of_append.1⟩

theorem Agree.eq_iff
    {decoded text key : Bytes}
    (agree : Agree decoded text)
    (ascii : Ascii key) :
    decoded = key ↔ text = key := by
  rcases agree with rfl | ⟨beyondDecoded, beyondText⟩
  · exact Iff.rfl
  · constructor
    · rintro rfl
      exact absurd ascii beyondDecoded
    · rintro rfl
      exact absurd ascii beyondText

/-! ## Pieces -/

variable {byte : UInt8}
variable {code : Nat}

theorem not_ascii_of_mem
    {text : Bytes}
    (listed : byte ∈ text)
    (beyond : ¬ byte < 0x80) :
    ¬ Ascii text :=
  fun ascii => beyond (ascii byte listed)

theorem ofNat_beyond
    {value : Nat}
    (low : 0x80 ≤ value)
    (high : value < 0x100) :
    ¬ UInt8.ofNat value < 0x80 := by
  rw [UInt8.lt_iff_toNat_lt, UInt8.toNat_ofNat_of_lt' high]
  exact Nat.not_lt.mpr low

/-- The last byte of a longer sequence of the decoder. -/
theorem trailing_beyond
    (code : Nat) :
    ¬ UInt8.ofNat (0x80 ||| code &&& 0x3f) < 0x80 := by
  refine ofNat_beyond Nat.left_le_or ?_
  have small : code &&& 0x3f < 2 ^ 8 :=
    Nat.lt_of_le_of_lt Nat.and_le_right (by decide)
  exact Nat.or_lt_two_pow (by decide) small

theorem appendUtf8_beyond
    (beyond : 0x7f < code) :
    ¬ Ascii (appendUtf8 code) := by
  unfold appendUtf8
  rw [if_neg (Nat.not_le.mpr beyond)]
  split
  · exact not_ascii_of_mem (by simp) (trailing_beyond code)
  · exact not_ascii_of_mem (by simp) (trailing_beyond code)

theorem codePointBytes_beyond
    (beyond : 0x7f < code) :
    ¬ Ascii (codePointBytes code) := by
  have trailing : ¬ UInt8.ofNat (0x80 + code / 1 % 0x40) < 0x80 :=
    ofNat_beyond (by omega) (by omega)
  unfold codePointBytes
  simp only
  rw [if_neg (Nat.not_le.mpr beyond)]
  split
  · exact not_ascii_of_mem (by simp) trailing
  · split
    · exact not_ascii_of_mem (by simp) trailing
    · exact not_ascii_of_mem (by simp) trailing

theorem unpaired_beyond
    (beyond : 0x7f < code) :
    ¬ Ascii (unpaired code) := by
  unfold unpaired
  split
  · exact codePointBytes_beyond (by decide)
  · exact codePointBytes_beyond beyond

theorem agree_unpaired
    (code : Nat) :
    Agree (appendUtf8 code) (unpaired code) := by
  rcases Nat.lt_or_ge 0x7f code with beyond | ascii
  · exact Or.inr ⟨appendUtf8_beyond beyond, unpaired_beyond beyond⟩
  · have alone : ¬ (0xd800 ≤ code ∧ code ≤ 0xdfff) := by omega
    left
    rw [appendUtf8, unpaired, if_pos ascii, if_neg alone, codePointBytes]
    exact (if_pos ascii).symm

/-! ## Digits -/

theorem hexValue_lt
    {digit : Nat}
    (value : hexValue byte = some digit) :
    digit < 16 := by
  unfold hexValue at value
  split at value
  · next range =>
      simp only [Bool.and_eq_true, decide_eq_true_eq, UInt8.le_iff_toNat_le]
        at range
      cases value
      have high : byte.toNat ≤ 0x39 := range.2
      omega
  · split at value
    · next range =>
        simp only [Bool.and_eq_true, decide_eq_true_eq,
          UInt8.le_iff_toNat_le] at range
        cases value
        have high : byte.toNat ≤ 0x66 := range.2
        omega
    · split at value
      · next range =>
          simp only [Bool.and_eq_true, decide_eq_true_eq,
            UInt8.le_iff_toNat_le] at range
          cases value
          have high : byte.toNat ≤ 0x46 := range.2
          omega
      · cases value

theorem hex_of_hexValue
    {digit : Nat}
    (value : hexValue byte = some digit) :
    hex byte = digit := by
  unfold hexValue at value
  unfold hex
  split at value
  · next range =>
      cases value
      rw [if_pos range]
  · next range =>
      rw [if_neg range]
      split at value
      · next lower =>
          cases value
          rw [if_pos lower]
      · next lower =>
          rw [if_neg lower]
          split at value
          · next upper =>
              cases value
              rw [if_pos upper]
          · cases value

/-- Four digits spell the number the reader reads. -/
theorem codeUnit_of_hex4
    {first second third fourth : UInt8}
    (spells : Hex4 [first, second, third, fourth] code) :
    codeUnit first second third fourth = code := by
  cases spells with
  | @digits _ _ _ _ a b c d firstValue secondValue thirdValue fourthValue =>
    have bBound := hexValue_lt secondValue
    have cBound := hexValue_lt thirdValue
    have dBound := hexValue_lt fourthValue
    unfold codeUnit
    rw [hex_of_hexValue firstValue, hex_of_hexValue secondValue,
      hex_of_hexValue thirdValue, hex_of_hexValue fourthValue]
    rw [Nat.or_assoc, Nat.or_assoc,
      ← Nat.shiftLeft_add_eq_or_of_lt (show d < 2 ^ 4 by omega) c,
      ← Nat.shiftLeft_add_eq_or_of_lt
        (show c <<< 4 + d < 2 ^ 8 by rw [Nat.shiftLeft_eq]; omega) b,
      ← Nat.shiftLeft_add_eq_or_of_lt
        (show b <<< 8 + (c <<< 4 + d) < 2 ^ 12 by
          rw [Nat.shiftLeft_eq, Nat.shiftLeft_eq]; omega) a]
    simp only [Nat.shiftLeft_eq]
    omega

/-! ## Literals -/

/-- An escape that stands alone. -/
theorem unescapeUnit_single
    {digits body text : Bytes}
    (spells : Hex4 digits code)
    (single : Unpaired code body)
    (rest : StringBody body text) :
    unescapeUnit (digits ++ body) = (appendUtf8 code, body) := by
  obtain ⟨first, second, third, fourth, rfl⟩ :
      ∃ first second third fourth, digits = [first, second, third, fourth] :=
    List.length_eq_four.mp spells.length
  have unit := codeUnit_of_hex4 spells
  unfold unescapeUnit
  simp only [List.cons_append, List.nil_append, unit]
  split
  · next slash mark fifth sixth seventh eighth further =>
      rw [if_neg]
      rintro ⟨high, ⟨rfl, rfl⟩, lowRange⟩
      obtain ⟨lowDigits, low, more, spellsLow, tail⟩ := rest.marked
      obtain ⟨fifth', sixth', seventh', eighth', rfl⟩ :=
        List.length_eq_four.mp spellsLow.length
      simp only [List.cons_append, List.nil_append, List.cons.injEq] at tail
      obtain ⟨rfl, rfl, rfl, rfl, rfl⟩ := tail
      have isHigh : isHighSurrogate code = true := by
        simpa [isHighSurrogate] using high
      have alone := single isHigh _ low further rfl spellsLow
      rw [codeUnit_of_hex4 spellsLow] at lowRange
      have isLow : isLowSurrogate low = true := by
        simpa [isLowSurrogate] using lowRange
      simp [isLow] at alone
  · rfl

/-- Two escapes that spell one character. -/
theorem unescapeUnit_pair
    {digits lowDigits : Bytes}
    {high low : Nat}
    (spellsHigh : Hex4 digits high)
    (isHigh : isHighSurrogate high = true)
    (spellsLow : Hex4 lowDigits low)
    (isLow : isLowSurrogate low = true)
    (body : Bytes) :
    unescapeUnit (digits ++ 0x5c :: 0x75 :: (lowDigits ++ body)) =
      (appendUtf8 (0x10000 + (high - 0xd800) * 0x400 + (low - 0xdc00)),
        body) := by
  obtain ⟨first, second, third, fourth, rfl⟩ :=
    List.length_eq_four.mp spellsHigh.length
  obtain ⟨fifth, sixth, seventh, eighth, rfl⟩ :=
    List.length_eq_four.mp spellsLow.length
  have highRange : 0xd800 ≤ high ∧ high ≤ 0xdbff := by
    simpa [isHighSurrogate] using isHigh
  have lowRange : 0xdc00 ≤ low ∧ low ≤ 0xdfff := by
    simpa [isLowSurrogate] using isLow
  unfold unescapeUnit
  simp only [List.cons_append, List.nil_append, codeUnit_of_hex4 spellsHigh,
    codeUnit_of_hex4 spellsLow]
  rw [if_pos ⟨highRange, ⟨trivial, trivial⟩, lowRange⟩, Nat.shiftLeft_eq]

/-- A byte that starts no escape is kept. -/
theorem decodeBody_plain
    (unescaped : byte ≠ 0x5c)
    (rounds : Nat)
    (rest : Bytes) :
    decodeBody (rounds + 1) (byte :: rest) =
      byte :: decodeBody rounds rest :=
  if_pos unescaped

/-- The decoder agrees with the reader on every literal the reader accepts. -/
theorem decodeBody_agrees
    {body text : Bytes}
    (spells : StringBody body text)
    {rounds : Nat}
    (enough : body.length ≤ rounds) :
    Agree (decodeBody rounds body) text := by
  induction spells generalizing rounds with
  | done =>
    cases rounds with
    | zero => exact Agree.refl _
    | succ rounds => exact Agree.refl _
  | @plain value body text printable unquoted unescaped rest
      ih =>
      obtain ⟨rounds, rfl⟩ : ∃ fewer, rounds = fewer + 1 :=
        ⟨rounds - 1, by
          rw [List.length_cons] at enough
          omega⟩
      rw [decodeBody_plain unescaped]
      exact (Agree.refl [value]).append
        (ih (Nat.le_of_succ_le_succ enough))
  | @simple escaped spelled body text escape rest ih =>
    obtain ⟨rounds, rfl⟩ : ∃ fewer, rounds = fewer + 1 :=
      ⟨rounds - 1, by
        rw [List.length_cons] at enough
        omega⟩
    have same : unescape escaped = some spelled := escape
    rw [decodeBody, if_neg (by simp)]
    simp only [same]
    refine (Agree.refl [spelled]).append (ih ?_)
    simp only [List.length_cons] at enough
    omega
  | @unicode code digits body text hex single rest ih =>
    obtain ⟨rounds, rfl⟩ : ∃ fewer, rounds = fewer + 1 :=
      ⟨rounds - 1, by
        rw [List.length_cons] at enough
        omega⟩
    rw [decodeBody, if_neg (by simp)]
    simp only [show unescape 0x75 = none by decide, if_true,
      unescapeUnit_single hex single rest]
    refine (agree_unpaired code).append (ih ?_)
    simp only [List.length_cons, List.length_append] at enough
    omega
  | @pair high low digits lowDigits body text hexHigh isHigh hexLow isLow rest
      ih =>
      obtain ⟨rounds, rfl⟩ : ∃ fewer, rounds = fewer + 1 :=
        ⟨rounds - 1, by
          rw [List.length_cons] at enough
          omega⟩
      rw [decodeBody, if_neg (by simp)]
      simp only [show unescape 0x75 = none by decide, if_true,
        unescapeUnit_pair hexHigh isHigh hexLow isLow]
      refine Agree.append (agree_unpaired _) (ih ?_)
      simp only [List.length_cons, List.length_append] at enough
      omega

theorem decodeJsonString_eq_iff
    {name text key : Bytes}
    (spells : StringBody name text)
    (ascii : Ascii key) :
    decodeJsonString (0x22 :: (name ++ [0x22])) = key ↔ text = key := by
  have inside :
      ((0x22 :: (name ++ [0x22]) : Bytes).drop 1).dropLast = name := by
    simp
  have decoded :
      decodeJsonString (0x22 :: (name ++ [0x22])) =
        decodeBody (name.length + 2) name := by
    rw [decodeJsonString, if_neg (by simp), inside]
    simp
  rw [decoded]
  exact (decodeBody_agrees spells (by omega)).eq_iff ascii

end Aeon.JsonSpan
