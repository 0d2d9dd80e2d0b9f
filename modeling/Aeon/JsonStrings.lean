import Aeon.PythonJson

namespace Aeon.Json

open List (append_assoc cons_append length_append length_cons nil_append)

/-!
# The string literals the reader accepts

`StringBody body text` says that `body`, between its quotes, spells `text`.  The
reader accepts exactly these bodies; what may follow the closing quote is never
looked at.
-/

/-- Four hexadecimal digits and the code unit they spell. -/
inductive Hex4 : Bytes → Nat → Prop where
  | digits
      {first second third fourth : UInt8}
      {a b c d : Nat}
      (firstValue : hexValue first = some a)
      (secondValue : hexValue second = some b)
      (thirdValue : hexValue third = some c)
      (fourthValue : hexValue fourth = some d) :
      Hex4 [first, second, third, fourth] (((a * 16 + b) * 16 + c) * 16 + d)

/-- No low surrogate's escape follows a high surrogate. -/
def Unpaired
    (code : Nat)
    (body : Bytes) : Prop :=
  isHighSurrogate code = true →
    ∀ digits low tail,
      body = 0x5c :: 0x75 :: (digits ++ tail) →
        Hex4 digits low → isLowSurrogate low = false

/-- What the bytes between two quotes spell. -/
inductive StringBody : Bytes → Bytes → Prop where
  | done : StringBody [] []
  | plain
      {value : UInt8}
      {body text : Bytes}
      (printable : ¬ value < 0x20)
      (unquoted : value ≠ 0x22)
      (unescaped : value ≠ 0x5c)
      (rest : StringBody body text) :
      StringBody (value :: body) (value :: text)
  | simple
      {escaped spelled : UInt8}
      {body text : Bytes}
      (escape : simpleEscape escaped = some spelled)
      (rest : StringBody body text) :
      StringBody (0x5c :: escaped :: body) (spelled :: text)
  | unicode
      {code : Nat}
      {digits body text : Bytes}
      (spells : Hex4 digits code)
      (single : Unpaired code body)
      (rest : StringBody body text) :
      StringBody (0x5c :: 0x75 :: (digits ++ body)) (unpaired code ++ text)
  | pair
      {high low : Nat}
      {digits lowDigits body text : Bytes}
      (spellsHigh : Hex4 digits high)
      (isHigh : isHighSurrogate high = true)
      (spellsLow : Hex4 lowDigits low)
      (isLow : isLowSurrogate low = true)
      (rest : StringBody body text) :
      StringBody
        (0x5c :: 0x75 :: (digits ++ 0x5c :: 0x75 :: (lowDigits ++ body)))
        (unpaired (0x10000 + (high - 0xd800) * 0x400 + (low - 0xdc00)) ++
          text)

/-! ## Escapes -/

variable {digits : Bytes}
variable {code : Nat}
variable {cursor after : Cursor}

theorem Hex4.length
    (spells : Hex4 digits code) :
    digits.length = 4 := by
  cases spells
  rfl

theorem Hex4.unique
    {code other : Nat}
    (spells : Hex4 digits code)
    (again : Hex4 digits other) :
    other = code := by
  cases spells with
  | digits a b c d =>
    cases again with
    | digits a' b' c' d' =>
      rw [a] at a'
      rw [b] at b'
      rw [c] at c'
      rw [d] at d'
      cases a'
      cases b'
      cases c'
      cases d'
      rfl

theorem Hex4.reads
    (spells : Hex4 digits code)
    (position : Nat)
    (rest : Bytes) :
    readHex4 ⟨position, digits ++ rest⟩ =
      .ok (code, ⟨position + 4, rest⟩) := by
  cases spells with
  | digits a b c d =>
    have long (length : Nat) : ¬ length + 1 + 1 + 1 + 1 < 4 := by omega
    simp only [readHex4, cons_append, nil_append,
      length_cons, long, if_false, readHexDigits, a, b, c, d,
      Cursor.skip_one, Nat.zero_mul, Nat.zero_add]

theorem readHexDigits_ok
    {digits codepoint code : Nat}
    (read : readHexDigits (digits + 1) codepoint cursor = .ok (code, after)) :
    ∃ byte rest digit,
      cursor.rest = byte :: rest ∧ hexValue byte = some digit ∧
        readHexDigits digits (codepoint * 16 + digit)
          ⟨cursor.position + 1, rest⟩ = .ok (code, after) := by
  unfold readHexDigits at read
  split at read
  · cases read
  · next byte rest here =>
      split at read
      · cases read
      · next digit value =>
          refine ⟨byte, rest, digit, here, value, ?_⟩
          rw [← read, Cursor.skip, here]
          rfl

theorem readHex4_ok
    (read : readHex4 cursor = .ok (code, after)) :
    ∃ digits,
      Hex4 digits code ∧ cursor.rest = digits ++ after.rest ∧
        after.position = cursor.position + 4 := by
  unfold readHex4 at read
  split at read
  · cases read
  · obtain ⟨first, _, a, here, firstValue, read⟩ := readHexDigits_ok read
    obtain ⟨second, _, b, rfl, secondValue, read⟩ := readHexDigits_ok read
    obtain ⟨third, _, c, rfl, thirdValue, read⟩ := readHexDigits_ok read
    obtain ⟨fourth, rest, d, rfl, fourthValue, read⟩ := readHexDigits_ok read
    cases read
    refine ⟨[first, second, third, fourth], ?_, here, rfl⟩
    have spells := Hex4.digits firstValue secondValue thirdValue fourthValue
    simpa using spells

theorem StringBody.marked
    {tail text : Bytes}
    (spells : StringBody (0x5c :: 0x75 :: tail) text) :
    ∃ digits code more, Hex4 digits code ∧ tail = digits ++ more := by
  generalize shape : (0x5c :: 0x75 :: tail : Bytes) = body at spells
  cases spells with
  | done => cases shape
  | plain printable unquoted unescaped rest =>
    cases shape
    exact absurd rfl unescaped
  | simple escape rest =>
    cases shape
    have unknown : simpleEscape 0x75 = none := by decide
    rw [unknown] at escape
    cases escape
  | unicode spells single rest =>
    cases shape
    exact ⟨_, _, _, spells, rfl⟩
  | pair spellsHigh isHigh spellsLow isLow rest =>
    cases shape
    exact ⟨_, _, _, spellsHigh, rfl⟩

/-- The mark of an escape stands in front of the closing quote or not at all. -/
theorem marked_of_prefix
    {body rest : Bytes}
    (marked : (bytes "\\u").isPrefixOf (body ++ 0x22 :: rest) = true) :
    ∃ tail, body = 0x5c :: 0x75 :: tail := by
  rw [bytes_unicode] at marked
  match body, marked with
  | [], marked => simp [List.isPrefixOf] at marked
  | [first], marked => simp [List.isPrefixOf] at marked
  | first :: second :: tail, marked =>
    simp only [cons_append, List.isPrefixOf, Bool.and_eq_true,
      beq_iff_eq] at marked
    obtain ⟨rfl, rfl, _⟩ := marked
    exact ⟨tail, rfl⟩

theorem unpaired_high
    (isHigh : isHighSurrogate code = true) :
    unpaired code = unpaired 0xfffd := by
  simp only [isHighSurrogate, Bool.and_eq_true, decide_eq_true_eq] at isHigh
  unfold unpaired
  rw [if_pos ⟨isHigh.1, by omega⟩, if_neg (by omega)]

theorem parseUnicodeEscape_single
    {digits body text : Bytes}
    (spells : Hex4 digits code)
    (single : Unpaired code body)
    (more : StringBody body text)
    (position : Nat)
    (rest : Bytes) :
    parseUnicodeEscape ⟨position, digits ++ (body ++ 0x22 :: rest)⟩ =
      .ok (unpaired code, ⟨position + 4, body ++ 0x22 :: rest⟩) := by
  unfold parseUnicodeEscape
  rw [spells.reads, ok_bind]
  simp only
  split
  · next high =>
      obtain ⟨isHigh, marked⟩ := high
      obtain ⟨tail, rfl⟩ := marked_of_prefix marked
      obtain ⟨lowDigits, low, behind, spellsLow, rfl⟩ := more.marked
      have isLow := single isHigh lowDigits low behind rfl spellsLow
      have skipped :
          (Cursor.mk (position + 4)
            (0x5c :: 0x75 :: (lowDigits ++ behind) ++ 0x22 :: rest)).skip 2 =
            ⟨position + 4 + 2, lowDigits ++ (behind ++ 0x22 :: rest)⟩ := by
        simp [Cursor.skip]
      rw [skipped, spellsLow.reads, ok_bind]
      simp only [isLow, Bool.false_eq_true, if_false]
      rw [unpaired_high isHigh]
  · rfl

theorem parseUnicodeEscape_joined
    {high low : Nat}
    {digits lowDigits : Bytes}
    (spellsHigh : Hex4 digits high)
    (isHigh : isHighSurrogate high = true)
    (spellsLow : Hex4 lowDigits low)
    (isLow : isLowSurrogate low = true)
    (position : Nat)
    (rest : Bytes) :
    parseUnicodeEscape
        ⟨position, digits ++ 0x5c :: 0x75 :: (lowDigits ++ rest)⟩ =
      .ok (unpaired (0x10000 + (high - 0xd800) * 0x400 + (low - 0xdc00)),
        ⟨position + 10, rest⟩) := by
  have marked :
      (bytes "\\u").isPrefixOf (0x5c :: 0x75 :: (lowDigits ++ rest)) =
        true := by
    rw [bytes_unicode]
    simp [List.isPrefixOf]
  have skipped :
      (Cursor.mk (position + 4)
        (0x5c :: 0x75 :: (lowDigits ++ rest))).skip 2 =
        ⟨position + 4 + 2, lowDigits ++ rest⟩ := rfl
  unfold parseUnicodeEscape
  rw [spellsHigh.reads, ok_bind]
  simp only [isHigh, marked, and_self, if_true]
  rw [skipped, spellsLow.reads, ok_bind]
  simp only [isLow, if_true]

theorem parseUnicodeEscape_ok
    {encoded : Bytes}
    (read : parseUnicodeEscape cursor = .ok (encoded, after)) :
    (∃ digits code,
      Hex4 digits code ∧ encoded = unpaired code ∧
        cursor.rest = digits ++ after.rest ∧
        after.position = cursor.position + 4 ∧
        ∀ body rest, after.rest = body ++ 0x22 :: rest → Unpaired code body) ∨
      ∃ digits high lowDigits low,
        Hex4 digits high ∧ isHighSurrogate high = true ∧
          Hex4 lowDigits low ∧ isLowSurrogate low = true ∧
          encoded =
            unpaired (0x10000 + (high - 0xd800) * 0x400 + (low - 0xdc00)) ∧
          cursor.rest =
            digits ++ 0x5c :: 0x75 :: (lowDigits ++ after.rest) ∧
          after.position = cursor.position + 10 := by
  unfold parseUnicodeEscape at read
  obtain ⟨⟨code, middle⟩, readCode, read⟩ := bind_eq_ok.mp read
  obtain ⟨digits, spells, shape, moved⟩ := readHex4_ok readCode
  simp only at read
  split at read
  · next high =>
      obtain ⟨isHigh, marked⟩ := high
      obtain ⟨⟨low, behind⟩, readLow, read⟩ := bind_eq_ok.mp read
      obtain ⟨lowDigits, spellsLow, lowShape, lowMoved⟩ := readHex4_ok readLow
      have middleShape :
          middle.rest = 0x5c :: 0x75 :: (lowDigits ++ behind.rest) := by
        rw [bytes_unicode] at marked
        obtain ⟨tail, split⟩ := List.isPrefixOf_iff_prefix.mp marked
        have dropped : middle.rest.drop 2 = lowDigits ++ behind.rest :=
          lowShape
        rw [← split] at dropped ⊢
        simpa using dropped
      simp only at read
      split at read
      · next isLow =>
          simp only [Except.ok.injEq, Prod.mk.injEq] at read
          obtain ⟨rfl, rfl⟩ := read
          refine Or.inr ⟨digits, code, lowDigits, low, spells, isHigh,
            spellsLow, isLow, rfl, ?_, ?_⟩
          · rw [shape, middleShape]
          · rw [lowMoved, Cursor.skip]
            simp only
            omega
      · next notLow =>
          simp only [Except.ok.injEq, Prod.mk.injEq] at read
          obtain ⟨rfl, rfl⟩ := read
          refine Or.inl ⟨digits, code, spells, (unpaired_high isHigh).symm,
            shape, moved, ?_⟩
          intro body rest ends _ otherDigits other tail bodyShape spellsOther
          rw [middleShape, bodyShape] at ends
          have sameDigits : otherDigits = lowDigits := by
            have sameTail :
                lowDigits ++ behind.rest =
                  otherDigits ++ (tail ++ 0x22 :: rest) := by
              simpa using ends
            exact ((List.append_inj sameTail
              (by rw [spellsLow.length, spellsOther.length])).1).symm
          rw [sameDigits] at spellsOther
          rw [spellsLow.unique spellsOther]
          simpa using notLow
  · next notPaired =>
      cases read
      refine Or.inl ⟨digits, code, spells, rfl, shape, moved, ?_⟩
      intro body rest ends isHigh otherDigits other tail bodyShape _
      refine absurd ⟨isHigh, ?_⟩ notPaired
      rw [ends, bodyShape, bytes_unicode]
      simp [List.isPrefixOf]

/-! ## Bodies -/

theorem StringBody.reads
    {body text : Bytes}
    (spells : StringBody body text)
    {rounds : Nat}
    (enough : body.length < rounds)
    (position : Nat)
    (result rest : Bytes) :
    parseStringBody rounds result ⟨position, body ++ 0x22 :: rest⟩ =
      .ok (result ++ text, ⟨position + body.length + 1, rest⟩) := by
  induction spells generalizing rounds position result with
  | done =>
    obtain ⟨rounds, rfl⟩ : ∃ fewer, rounds = fewer + 1 :=
      ⟨rounds - 1, by omega⟩
    simp [parseStringBody]
  | plain printable unquoted unescaped _ ih =>
    simp only [length_cons] at enough
    obtain ⟨rounds, rfl⟩ : ∃ fewer, rounds = fewer + 1 :=
      ⟨rounds - 1, by omega⟩
    rw [cons_append, parseStringBody_plain rounds position result _
      printable unquoted unescaped, ih (by omega)]
    simp only [append_assoc, cons_append, nil_append,
      length_cons, Except.ok.injEq, Prod.mk.injEq, Cursor.mk.injEq,
      true_and, and_true]
    omega
  | simple escape _ ih =>
    simp only [length_cons] at enough
    obtain ⟨rounds, rfl⟩ : ∃ fewer, rounds = fewer + 1 :=
      ⟨rounds - 1, by omega⟩
    rw [cons_append, cons_append,
      parseStringBody_simple rounds position result _ escape,
      ih (by omega)]
    simp only [append_assoc, cons_append, nil_append,
      length_cons, Except.ok.injEq, Prod.mk.injEq, Cursor.mk.injEq,
      true_and, and_true]
    omega
  | @unicode code digits body text spells single more ih =>
    have four := spells.length
    simp only [length_cons, length_append] at enough
    obtain ⟨rounds, rfl⟩ : ∃ fewer, rounds = fewer + 1 :=
      ⟨rounds - 1, by omega⟩
    have escape :=
      parseUnicodeEscape_single spells single more (position + 2) rest
    rw [cons_append, cons_append, append_assoc,
      parseStringBody_unicode rounds position result _ escape,
      ih (by omega)]
    simp only [append_assoc, length_cons, length_append,
      Except.ok.injEq, Prod.mk.injEq, Cursor.mk.injEq, true_and, and_true]
    omega
  | @pair high low digits lowDigits body text spellsHigh isHigh spellsLow isLow
      more ih =>
      have four := spellsHigh.length
      have fourLow := spellsLow.length
      simp only [length_cons, length_append] at enough
      obtain ⟨rounds, rfl⟩ : ∃ fewer, rounds = fewer + 1 :=
        ⟨rounds - 1, by omega⟩
      have escape :=
        parseUnicodeEscape_joined spellsHigh isHigh spellsLow isLow
          (position + 2) (body ++ 0x22 :: rest)
      simp only [cons_append, append_assoc]
      rw [parseStringBody_unicode rounds position result _ escape,
        ih (by omega)]
      simp only [append_assoc, length_cons, length_append,
        Except.ok.injEq, Prod.mk.injEq, Cursor.mk.injEq, true_and, and_true]
      omega

theorem StringBody.escaped
    {cursor middle : Cursor}
    {encoded body text rest : Bytes}
    (spells : StringBody body text)
    (read : parseUnicodeEscape cursor = .ok (encoded, middle))
    (shape : middle.rest = body ++ 0x22 :: rest) :
    ∃ longer,
      StringBody (0x5c :: 0x75 :: longer) (encoded ++ text) ∧
        cursor.rest = longer ++ 0x22 :: rest ∧
        middle.position + body.length = cursor.position + longer.length := by
  rcases parseUnicodeEscape_ok read with
    ⟨digits, code, spellsCode, encodes, digitShape, moved, single⟩ |
    ⟨digits, high, lowDigits, low, spellsHigh, isHigh, spellsLow, isLow,
      encodes, digitShape, moved⟩
  · rw [encodes]
    refine ⟨digits ++ body, .unicode spellsCode (single body rest shape)
      spells, ?_, ?_⟩
    · rw [digitShape, shape, append_assoc]
    · rw [moved, length_append, spellsCode.length]
      omega
  · rw [encodes]
    refine ⟨_, .pair spellsHigh isHigh spellsLow isLow spells, ?_, ?_⟩
    · rw [digitShape, shape]
      simp
    · rw [moved]
      simp only [length_append, length_cons, spellsHigh.length,
        spellsLow.length]
      omega

theorem parseStringBody_ok
    {rounds : Nat}
    {result text : Bytes}
    (read : parseStringBody rounds result cursor = .ok (text, after)) :
    ∃ body spelled,
      StringBody body spelled ∧ text = result ++ spelled ∧
        cursor.rest = body ++ 0x22 :: after.rest ∧
        after.position = cursor.position + body.length + 1 := by
  induction rounds generalizing result cursor with
  | zero => cases read
  | succ rounds ih =>
    unfold parseStringBody at read
    split at read
    · cases read
    · next value rest here =>
        have skipped : cursor.skip 1 = ⟨cursor.position + 1, rest⟩ := by
          rw [Cursor.skip, here]
          rfl
        simp only [skipped] at read
        split at read
        · next quote =>
            cases read
            subst quote
            exact ⟨[], [], .done, by simp, by simpa using here, rfl⟩
        · next unquoted =>
            split at read
            · cases read
            · next printable =>
                split at read
                · next unescaped =>
                    obtain ⟨body, spelled, spells, rfl, shape, moved⟩ :=
                      ih read
                    refine ⟨value :: body, value :: spelled,
                      .plain printable unquoted unescaped spells,
                      by simp, ?_, ?_⟩
                    · rw [here]
                      exact congrArg (value :: ·) shape
                    · rw [moved, length_cons]
                      simp only
                      omega
                · next escape =>
                    obtain rfl : value = 0x5c := by simpa using escape
                    split at read
                    · cases read
                    · next escaped behind =>
                        rw [Cursor.skip_one] at read
                        split at read
                        · next spelledByte simpleByte =>
                            obtain ⟨body, spelled, spells, rfl, shape,
                              moved⟩ := ih read
                            refine ⟨0x5c :: escaped :: body,
                              spelledByte :: spelled,
                              .simple simpleByte spells, by simp, ?_, ?_⟩
                            · rw [here]
                              exact congrArg (0x5c :: escaped :: ·) shape
                            · rw [moved, length_cons,
                                length_cons]
                              simp only
                              omega
                        · split at read
                          · next isUnicode =>
                              subst isUnicode
                              obtain ⟨⟨encoded, middle⟩, escapeRead, read⟩ :=
                                bind_eq_ok.mp read
                              obtain ⟨body, spelled, spells, rfl, shape,
                                moved⟩ := ih read
                              obtain ⟨longer, spellsLonger, longerShape,
                                longerMoved⟩ :=
                                spells.escaped escapeRead shape
                              refine ⟨0x5c :: 0x75 :: longer, _,
                                spellsLonger, by simp, ?_, ?_⟩
                              · rw [here]
                                exact congrArg (0x5c :: 0x75 :: ·)
                                  longerShape
                              · rw [moved, length_cons,
                                  length_cons]
                                simp only at longerMoved ⊢
                                omega
                          · cases read

/-- A literal is read, whatever follows. -/
theorem StringBody.parseString
    {body text : Bytes}
    (spells : StringBody body text)
    (position : Nat)
    (rest : Bytes) :
    Json.parseString ⟨position, 0x22 :: (body ++ 0x22 :: rest)⟩ =
      .ok (text, ⟨position + body.length + 2, rest⟩) := by
  unfold Json.parseString
  rw [expect_cons, ok_bind, spells.reads (by simp)]
  simp only [nil_append, Except.ok.injEq, Prod.mk.injEq,
    Cursor.mk.injEq, true_and, and_true]
  omega

theorem parseString_ok
    {text : Bytes}
    (read : parseString cursor = .ok (text, after)) :
    ∃ body,
      StringBody body text ∧
        cursor.rest = 0x22 :: (body ++ 0x22 :: after.rest) ∧
        after.position = cursor.position + body.length + 2 := by
  unfold parseString expect at read
  split at read
  · next opens =>
      rw [ok_bind] at read
      obtain ⟨body, spelled, spells, rfl, shape, moved⟩ :=
        parseStringBody_ok read
      refine ⟨body, spells, ?_, ?_⟩
      · obtain ⟨tail, here⟩ := List.head?_eq_some_iff.mp opens
        rw [here]
        rw [Cursor.skip, here] at shape
        exact congrArg _ shape
      · rw [moved, Cursor.skip]
        simp only
        omega
  · cases read

end Aeon.Json
