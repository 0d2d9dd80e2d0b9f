import Aeon.JsonStrings
import Aeon.Utf8

namespace Aeon.Json

/-!
# What a string literal is made of

Between its quotes a literal holds bytes and escapes, and a `\u` escape stands for a
UTF-16 code unit.  A high and a low surrogate next to each other stand for one scalar;
what a surrogate on its own stands for is left to the reader.
-/

/-- A part of a literal: a byte, or the code unit of an escape. -/
inductive Token where
  | byte (value : UInt8)
  | unit (code : Nat)
  deriving Repr, DecidableEq

/-- The parts of the bytes between two quotes. -/
inductive Tokens (allowed : UInt8 → Prop) : Bytes → List Token → Prop where
  | done : Tokens allowed [] []
  | plain
      {value : UInt8}
      {body : Bytes}
      {tokens : List Token}
      (allows : allowed value)
      (unquoted : value ≠ 0x22)
      (unescaped : value ≠ 0x5c)
      (rest : Tokens allowed body tokens) :
      Tokens allowed (value :: body) (.byte value :: tokens)
  | simple
      {escaped spelled : UInt8}
      {body : Bytes}
      {tokens : List Token}
      (escape : simpleEscape escaped = some spelled)
      (rest : Tokens allowed body tokens) :
      Tokens allowed (0x5c :: escaped :: body) (.byte spelled :: tokens)
  | unicode
      {code : Nat}
      {digits body : Bytes}
      {tokens : List Token}
      (spells : Hex4 digits code)
      (rest : Tokens allowed body tokens) :
      Tokens allowed (0x5c :: 0x75 :: (digits ++ body)) (.unit code :: tokens)

/-- The bytes a literal may hold as they are. -/
def Printable (value : UInt8) : Prop :=
  ¬ value < 0x20

/-- A code unit that is half of a pair. -/
def isSurrogate (code : Nat) : Bool :=
  isHighSurrogate code || isLowSurrogate code

/-- The scalar of two surrogates. -/
def joined (high low : Nat) : Nat :=
  0x10000 + (high - 0xd800) * 0x400 + (low - 0xdc00)

/-- A code unit that is not in a pair. -/
def unitText
    (stray : Nat → Bytes)
    (code : Nat) : Bytes :=
  if isSurrogate code then stray code else codePointBytes code

/-- The text of the parts, with the text of a surrogate on its own. -/
def spelled (stray : Nat → Bytes) : List Token → Bytes
  | [] => []
  | .byte value :: rest => value :: spelled stray rest
  | .unit high :: .unit low :: rest =>
    if isHighSurrogate high ∧ isLowSurrogate low then
      codePointBytes (joined high low) ++ spelled stray rest
    else
      unitText stray high ++ spelled stray (.unit low :: rest)
  | .unit code :: rest => unitText stray code ++ spelled stray rest

/-- A surrogate on its own is replaced by U+FFFD. -/
def replaced (_ : Nat) : Bytes :=
  codePointBytes 0xfffd

/-- The string a literal stands for. -/
def stringText (tokens : List Token) : Bytes :=
  spelled replaced tokens

/-! ## Code units -/

theorem hexValue_bound
    {byte : UInt8}
    {digit : Nat}
    (value : hexValue byte = some digit) :
    digit < 16 := by
  have within (low high base : Nat)
      (range : (UInt8.ofNat low ≤ byte && byte ≤ UInt8.ofNat high) = true)
      (small : high < 256)
      (narrow : high - low + base < 16)
      (isDigit : byte.toNat - low + base = digit) : digit < 16 := by
    simp only [Bool.and_eq_true, decide_eq_true_eq, UInt8.le_iff_toNat_le,
      UInt8.toNat_ofNat'] at range
    have := range.2
    rw [Nat.mod_eq_of_lt small] at this
    omega
  unfold hexValue at value
  split at value
  · next range =>
      exact within 0x30 0x39 0 range (by decide) (by decide)
        (Option.some.inj value)
  · split at value
    · next range =>
        exact within 0x61 0x66 10 range (by decide)
          (by decide) (Option.some.inj value)
    · split at value
      · next range =>
          exact within 0x41 0x46 10 range (by decide)
            (by decide) (Option.some.inj value)
      · cases value

/-- Every unit is below `2^16`. -/
theorem Hex4.bound
    {digits : Bytes}
    {code : Nat}
    (spells : Hex4 digits code) :
    code < 0x10000 := by
  cases spells with
  | digits first second third fourth =>
    have := hexValue_bound first
    have := hexValue_bound second
    have := hexValue_bound third
    have := hexValue_bound fourth
    omega

theorem unitText_replaced (code : Nat) :
    unitText replaced code = unpaired code := by
  unfold unitText unpaired replaced
  have same : isSurrogate code = true ↔ 0xd800 ≤ code ∧ code ≤ 0xdfff := by
    simp only [isSurrogate, isHighSurrogate, isLowSurrogate, Bool.or_eq_true,
      Bool.and_eq_true, decide_eq_true_eq]
    omega
  by_cases surrogate : isSurrogate code = true
  · rw [if_pos surrogate, if_pos (same.mp surrogate)]
  · rw [if_neg surrogate, if_neg fun range => surrogate (same.mpr range)]

/-- A pair stands for a scalar that is no surrogate. -/
theorem unpaired_joined (high low : Nat) :
    unpaired (joined high low) = codePointBytes (joined high low) := by
  unfold unpaired joined
  rw [if_neg (by omega)]

theorem joined_eq (high low : Nat) :
    joined high low = 0x10000 + (high - 0xd800) * 0x400 + (low - 0xdc00) :=
  rfl

theorem joined_scalar (high low : Nat) :
    isSurrogate (joined high low) = false := by
  have value := joined_eq high low
  simp only [isSurrogate, isHighSurrogate, isLowSurrogate, Bool.or_eq_false_iff,
    Bool.and_eq_false_iff, decide_eq_false_iff_not]
  omega

theorem high_offset
    {high : Nat}
    (isHigh : isHighSurrogate high = true) :
    0xd800 ≤ high ∧ high - 0xd800 < 0x400 := by
  simp only [isHighSurrogate, Bool.and_eq_true, decide_eq_true_eq] at isHigh
  omega

theorem low_offset
    {low : Nat}
    (isLow : isLowSurrogate low = true) :
    0xdc00 ≤ low ∧ low - 0xdc00 < 0x400 := by
  simp only [isLowSurrogate, Bool.and_eq_true, decide_eq_true_eq] at isLow
  omega

theorem joined_bound
    {high low : Nat}
    (paired : isHighSurrogate high = true ∧ isLowSurrogate low = true) :
    joined high low < 0x110000 := by
  have far := (high_offset paired.1).2
  have near := (low_offset paired.2).2
  have value := joined_eq high low
  omega

/-- A unit that is not the first half of a pair stands on its own. -/
theorem spelled_unit
    (stray : Nat → Bytes)
    {code : Nat}
    {tokens : List Token}
    (single : ∀ low rest, tokens = .unit low :: rest →
      ¬ (isHighSurrogate code = true ∧ isLowSurrogate low = true)) :
    spelled stray (.unit code :: tokens) =
      unitText stray code ++ spelled stray tokens := by
  match tokens with
  | [] => rfl
  | .byte value :: rest => rfl
  | .unit low :: rest =>
    rw [spelled, if_neg (single low rest rfl)]

/-! ## The reader's strings -/

theorem Tokens.unit_shape
    {allowed : UInt8 → Prop}
    {body : Bytes}
    {code : Nat}
    {tokens : List Token}
    (isBody : Tokens allowed body (.unit code :: tokens)) :
    ∃ digits rest,
      body = 0x5c :: 0x75 :: (digits ++ rest) ∧ Hex4 digits code ∧
        Tokens allowed rest tokens := by
  cases isBody with
  | unicode spells rest => exact ⟨_, _, rfl, spells, rest⟩

theorem Tokens.unit_first
    {allowed : UInt8 → Prop}
    {tail : Bytes}
    {tokens : List Token}
    (isBody : Tokens allowed (0x5c :: 0x75 :: tail) tokens) :
    ∃ code rest, tokens = .unit code :: rest := by
  generalize shape : (0x5c :: 0x75 :: tail : Bytes) = body at isBody
  cases isBody with
  | done => cases shape
  | plain allows unquoted unescaped rest =>
    cases shape
    exact absurd rfl unescaped
  | simple escape rest =>
    cases shape
    cases escape
  | unicode spells rest => exact ⟨_, _, rfl⟩

theorem StringBody.tokens
    {body text : Bytes}
    (spells : StringBody body text) :
    ∃ tokens, Tokens Printable body tokens ∧ stringText tokens = text := by
  induction spells with
  | done => exact ⟨[], .done, rfl⟩
  | @plain value body text printable unquoted unescaped _ ih =>
    obtain ⟨tokens, isBody, rfl⟩ := ih
    exact ⟨.byte value :: tokens, .plain printable unquoted unescaped isBody, rfl⟩
  | @simple escaped spelledByte body text escape _ ih =>
    obtain ⟨tokens, isBody, rfl⟩ := ih
    exact ⟨.byte spelledByte :: tokens, .simple escape isBody, rfl⟩
  | @unicode code digits body text spells single _ ih =>
    obtain ⟨tokens, isBody, rfl⟩ := ih
    refine ⟨.unit code :: tokens, .unicode spells isBody, ?_⟩
    rw [stringText, spelled_unit, unitText_replaced]
    · rfl
    · rintro low rest rfl ⟨isHigh, isLow⟩
      obtain ⟨lowDigits, tail, shape, spellsLow, -⟩ := isBody.unit_shape
      have notLow := single isHigh lowDigits low tail shape spellsLow
      rw [isLow] at notLow
      cases notLow
  | @pair high low digits lowDigits body text spellsHigh isHigh spellsLow isLow _
      ih =>
      obtain ⟨tokens, isBody, rfl⟩ := ih
      refine ⟨.unit high :: .unit low :: tokens,
        .unicode spellsHigh (.unicode spellsLow isBody), ?_⟩
      rw [stringText, spelled, if_pos ⟨isHigh, isLow⟩, ← unpaired_joined]
      rfl

/-- Parts are read as their text. -/
theorem Tokens.stringBody
    {body : Bytes}
    {tokens : List Token}
    (isBody : Tokens Printable body tokens) :
    StringBody body (stringText tokens) := by
  unfold stringText
  induction tokens using spelled.induct generalizing body with
  | case1 =>
    cases isBody
    exact .done
  | case2 value rest ih =>
    cases isBody with
    | plain allows unquoted unescaped isRest =>
      exact .plain allows unquoted unescaped (ih isRest)
    | simple escape isRest => exact .simple escape (ih isRest)
  | case3 high low rest paired ih =>
    obtain ⟨digits, body, rfl, spellsHigh, isBody⟩ := isBody.unit_shape
    obtain ⟨lowDigits, body, rfl, spellsLow, isBody⟩ := isBody.unit_shape
    rw [spelled, if_pos paired, ← unpaired_joined]
    exact .pair spellsHigh paired.1 spellsLow paired.2 (ih isBody)
  | case4 high low rest single ih =>
    obtain ⟨digits, body, rfl, spellsHigh, isBody⟩ := isBody.unit_shape
    rw [spelled, if_neg single, unitText_replaced]
    refine .unicode spellsHigh ?_ (ih isBody)
    intro isHigh lowDigits other tail shape spellsOther
    obtain ⟨digits, behind, rfl, spellsLow, -⟩ := isBody.unit_shape
    simp only [List.cons.injEq, true_and] at shape
    have same := (List.append_inj shape
      (by rw [spellsLow.length, spellsOther.length])).1
    rw [← same] at spellsOther
    rw [spellsLow.unique spellsOther]
    simpa [isHigh] using single
  | case5 code rest notUnit ih =>
    obtain ⟨digits, body, rfl, spells, isBody⟩ := isBody.unit_shape
    have single (low : Nat) (others : List Token) : rest ≠ .unit low :: others :=
      notUnit low others
    rw [spelled_unit _ fun low others shape => absurd shape (single low others),
      unitText_replaced]
    refine .unicode spells ?_ (ih isBody)
    rintro - lowDigits low tail rfl -
    obtain ⟨other, others, shape⟩ := isBody.unit_first
    exact absurd shape (single other others)

/-! ## Valid UTF-8 -/

theorem codePointBytes_valid
    {code : Nat}
    (scalar : isSurrogate code = false)
    (bound : code < 0x110000) :
    Utf8.Valid (codePointBytes code) := by
  have range : code.isValidChar := by
    simp only [isSurrogate, isHighSurrogate, isLowSurrogate, Bool.or_eq_false_iff,
      Bool.and_eq_false_iff, decide_eq_false_iff_not] at scalar
    unfold Nat.isValidChar
    omega
  have shown := codePointBytes_toNat (Char.ofNatAux code range)
  refine ⟨[Char.ofNatAux code range], ?_⟩
  rw [Utf8.encode_cons, Utf8.encode_nil, List.append_nil, ← shown]
  congr 1

/-- A byte below `0x80` is a scalar of its own. -/
theorem ascii_valid
    {value : UInt8}
    (ascii : value < 0x80) :
    Utf8.Valid [value] := by
  have below : value.toNat < 0x80 := by
    simpa [UInt8.lt_iff_toNat_lt] using ascii
  have isValid : Utf8.Valid (codePointBytes value.toNat) := by
    refine codePointBytes_valid ?_ (by omega)
    simp only [isSurrogate, isHighSurrogate, isLowSurrogate, Bool.or_eq_false_iff,
      Bool.and_eq_false_iff, decide_eq_false_iff_not]
    omega
  rwa [codePointBytes, if_pos (by omega), UInt8.ofNat_toNat] at isValid

theorem asciis_valid
    {text : Bytes}
    (ascii : ∀ value ∈ text, value < 0x80) :
    Utf8.Valid text := by
  induction text with
  | nil => exact .nil
  | cons value rest ih =>
    rw [List.forall_mem_cons] at ascii
    exact (ascii_valid ascii.1).append (ih ascii.2)

theorem valid_around
    {front back : Bytes}
    (ascii : Bytes)
    (below : ∀ value ∈ ascii, value < 0x80)
    (nonempty : ascii ≠ [])
    (valid : Utf8.Valid (front ++ (ascii ++ back))) :
    Utf8.Valid front ∧ Utf8.Valid back := by
  have starts : ∀ value ∈ (ascii ++ back).head?, ¬ Utf8.IsContinuation value := by
    obtain ⟨first, rest, rfl⟩ := List.exists_cons_of_ne_nil nonempty
    intro value isFirst
    obtain rfl : first = value := by simpa using isFirst
    exact (ascii_valid (below first List.mem_cons_self)).lead
  obtain ⟨isFront, others⟩ := valid.cut starts
  exact ⟨isFront, (asciis_valid below).rest others⟩

theorem hexDigits_ascii
    {digits : Bytes}
    {code : Nat}
    (spells : Hex4 digits code) :
    ∀ value ∈ digits, value < 0x80 := by
  have digit {value : UInt8} {number : Nat} (isDigit : hexValue value = some number) :
      value < 0x80 := by
    unfold hexValue at isDigit
    grind
  cases spells with
  | digits first second third fourth =>
    simp only [List.forall_mem_cons, List.not_mem_nil, false_implies,
      implies_true, and_true]
    exact ⟨digit first, digit second, digit third, digit fourth⟩

theorem simpleEscape_ascii
    {escaped spelled : UInt8}
    (escape : simpleEscape escaped = some spelled) :
    escaped < 0x80 ∧ spelled < 0x80 := by
  unfold simpleEscape at escape
  grind

theorem spelled_valid
    {stray : Nat → Bytes}
    (strays : ∀ code, isSurrogate code = true → Utf8.Valid (stray code))
    {allowed : UInt8 → Prop}
    {body : Bytes}
    {tokens : List Token}
    (isBody : Tokens allowed body tokens)
    (front : Bytes)
    (valid : Utf8.Valid (front ++ body)) :
    Utf8.Valid (front ++ spelled stray tokens) := by
  have unit {code : Nat} (small : code < 0x10000) :
      Utf8.Valid (unitText stray code) := by
    unfold unitText
    split
    · next surrogate => exact strays code surrogate
    · next scalar => exact codePointBytes_valid (by simpa using scalar) (by omega)
  have escaped {digits body : Bytes} {code : Nat} (spells : Hex4 digits code)
      (front : Bytes)
      (valid : Utf8.Valid (front ++ 0x5c :: 0x75 :: (digits ++ body))) :
      Utf8.Valid front ∧ Utf8.Valid body := by
    refine valid_around (0x5c :: 0x75 :: digits) ?_ (by simp)
      (by simpa using valid)
    simp only [List.forall_mem_cons]
    exact ⟨by decide, by decide, hexDigits_ascii spells⟩
  induction tokens using spelled.induct generalizing body front with
  | case1 =>
    cases isBody
    exact valid
  | case2 value rest ih =>
    cases isBody with
    | plain allows unquoted unescaped isRest =>
      have isValid := ih isRest (front ++ [value])
        (by simpa using valid)
      simpa [spelled] using isValid
    | @simple escaped _ body _ escape isRest =>
      have ascii := simpleEscape_ascii escape
      obtain ⟨isFront, isBack⟩ := valid_around [0x5c, escaped]
        (by simpa using ascii.1) (by simp) (by simpa using valid)
      have isValid := ih isRest [] isBack
      exact isFront.append ((ascii_valid ascii.2).append isValid)
  | case3 high low rest paired ih =>
    obtain ⟨digits, body, rfl, spellsHigh, isBody⟩ := isBody.unit_shape
    obtain ⟨lowDigits, body, rfl, spellsLow, isBody⟩ := isBody.unit_shape
    obtain ⟨isFront, isMiddle⟩ := escaped spellsHigh front valid
    obtain ⟨-, isBack⟩ := escaped spellsLow [] isMiddle
    have isValid := ih isBody [] isBack
    rw [spelled, if_pos paired]
    refine isFront.append ((codePointBytes_valid ?_ ?_).append isValid)
    · exact joined_scalar high low
    · exact joined_bound paired
  | case4 high low rest single ih =>
    obtain ⟨digits, body, rfl, spellsHigh, isBody⟩ := isBody.unit_shape
    obtain ⟨isFront, isBack⟩ := escaped spellsHigh front valid
    rw [spelled, if_neg single]
    exact isFront.append ((unit spellsHigh.bound).append
      (ih isBody [] isBack))
  | case5 code rest notUnit ih =>
    obtain ⟨digits, body, rfl, spells, isBody⟩ := isBody.unit_shape
    obtain ⟨isFront, isBack⟩ := escaped spells front valid
    rw [spelled_unit _ fun low others shape => absurd shape (notUnit low others)]
    exact isFront.append ((unit spells.bound).append
      (ih isBody [] isBack))

theorem stringText_valid
    {allowed : UInt8 → Prop}
    {body : Bytes}
    {tokens : List Token}
    (isBody : Tokens allowed body tokens)
    (valid : Utf8.Valid body) :
    Utf8.Valid (stringText tokens) :=
  spelled_valid (fun _ _ => codePointBytes_valid (by decide) (by decide)) isBody []
    valid

end Aeon.Json
