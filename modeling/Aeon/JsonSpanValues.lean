import Aeon.JsonSpanKeys

namespace Aeon.JsonSpan

open Json (Blank Hex4 Digits WholePart FractionPart ExponentPart NumberText
  StringBody Item Member Source separated isDigit isWhitespace hexValue
  simpleEscape)
open List (append_assoc cons_append length_append length_cons length_nil mem_cons_self
  nil_append singleton_append)

/-!
# Where a value ends

The scanner counts brackets and skips strings without reading them.  A text it passes
over at some depth leaves the depth as it was, and every source is such a text, so a
nested value ends at its own closing bracket.
-/

/-! ## Strings -/

/-- A byte of a string that is neither a quote nor a backslash. -/
def Inside (byte : UInt8) : Prop :=
  byte ≠ 0x22 ∧ byte ≠ 0x5c

theorem inside_of_hexValue
    {byte : UInt8}
    {digit : Nat}
    (value : hexValue byte = some digit) :
    Inside byte := by
  constructor
  · rintro rfl
    cases value
  · rintro rfl
    cases value

theorem Hex4.inside
    {digits : Bytes}
    {code : Nat}
    (spells : Hex4 digits code) :
    ∀ byte ∈ digits, Inside byte := by
  cases spells with
  | digits first second third fourth =>
    intro byte listed
    simp only [List.mem_cons, List.not_mem_nil, or_false] at listed
    rcases listed with rfl | rfl | rfl | rfl
    · exact inside_of_hexValue first
    · exact inside_of_hexValue second
    · exact inside_of_hexValue third
    · exact inside_of_hexValue fourth

/-- Pieces of a string: bytes that are kept, and backslashes with what they escape. -/
inductive Quoted : Bytes → Prop where
  | done : Quoted []
  | byte
      {byte : UInt8}
      {body : Bytes}
      (inside : Inside byte)
      (rest : Quoted body) :
      Quoted (byte :: body)
  | escape
      {escaped : UInt8}
      {body : Bytes}
      (rest : Quoted body) :
      Quoted (0x5c :: escaped :: body)

theorem Quoted.prepend
    {before body : Bytes}
    (inside : ∀ byte ∈ before, Inside byte)
    (quoted : Quoted body) :
    Quoted (before ++ body) := by
  induction before with
  | nil => exact quoted
  | cons first before ih =>
    exact .byte (inside first mem_cons_self)
      (ih fun byte listed =>
        inside byte (List.mem_cons_of_mem first listed))

/-- The body of a string has no open quote. -/
theorem quoted_of_stringBody
    {body text : Bytes}
    (spells : StringBody body text) :
    Quoted body := by
  induction spells with
  | done => exact .done
  | plain _ unquoted unescaped _ ih =>
    exact .byte ⟨unquoted, unescaped⟩ ih
  | simple _ _ ih => exact .escape ih
  | unicode hex _ _ ih =>
    exact .escape (ih.prepend (Hex4.inside hex))
  | pair hexHigh _ hexLow _ _ ih =>
    exact .escape
      (Quoted.prepend (Hex4.inside hexHigh)
        (.escape (ih.prepend (Hex4.inside hexLow))))

variable {body : Bytes}
variable {text : Bytes}
variable {opening closing : UInt8}
variable {inner : Bytes}

/-- A string's span ends at its closing quote. -/
theorem Quoted.stringSpan
    (quoted : Quoted body)
    (rest : Bytes) :
    JsonSpan.stringSpan (body ++ 0x22 :: rest) = body.length := by
  induction quoted with
  | done =>
    rw [nil_append, JsonSpan.stringSpan.eq_def]
    simp
  | byte inside _ ih =>
    rw [cons_append, JsonSpan.stringSpan.eq_def]
    simp only [inside.1, inside.2, if_false, ih,
      length_cons]
    omega
  | escape _ ih =>
    rw [cons_append, cons_append, JsonSpan.stringSpan.eq_def]
    simp only [show ((0x5c : UInt8) = 0x22) = False by decide, if_false,
      if_true, ih, length_cons]
    omega

/-- A string is passed over inside a nested value. -/
theorem Quoted.nestedSpan
    (quoted : Quoted body)
    (depth : Int)
    (rest : Bytes) :
    JsonSpan.nestedSpan depth true (body ++ 0x22 :: rest) =
      body.length + 1 + JsonSpan.nestedSpan depth false rest := by
  induction quoted with
  | done =>
    rw [nil_append, JsonSpan.nestedSpan.eq_def]
    simp
  | byte inside _ ih =>
    rw [cons_append, JsonSpan.nestedSpan.eq_def]
    simp only [inside.1, inside.2, if_false, ne_eq, not_false_eq_true,
      decide_true, ih, length_cons]
    omega
  | escape _ ih =>
    rw [cons_append, cons_append, JsonSpan.nestedSpan.eq_def]
    simp only [if_true, ih, length_cons]
    omega

/-! ## Nested values -/

/-- The scanner passes over the text and is at the same depth behind it. -/
def Passes (text : Bytes) : Prop :=
  ∀ (depth : Int) (rest : Bytes), 1 ≤ depth →
    nestedSpan depth false (text ++ rest) =
      text.length + nestedSpan depth false rest

/-- A byte that is neither a quote nor a bracket. -/
def Neutral (byte : UInt8) : Prop :=
  byte ≠ 0x22 ∧ (byte ≠ 0x7b ∧ byte ≠ 0x5b) ∧ byte ≠ 0x7d ∧ byte ≠ 0x5d

theorem passes_nil : Passes [] := by
  intro depth rest _
  rw [nil_append, length_nil, Nat.zero_add]

/-- Texts that pass, pass together. -/
theorem Passes.append
    {first second : Bytes}
    (before : Passes first)
    (behind : Passes second) :
    Passes (first ++ second) := by
  intro depth rest inside
  rw [append_assoc, before depth _ inside, behind depth _ inside,
    length_append, Nat.add_assoc]

/-- Bytes that are no bracket or quote pass. -/
theorem passes_neutral
    (neutral : ∀ byte ∈ text, Neutral byte) :
    Passes text := by
  induction text with
  | nil => exact passes_nil
  | cons byte text ih =>
    obtain ⟨unquoted, ⟨openBrace, openBracket⟩, closeBrace, closeBracket⟩ :=
      neutral byte mem_cons_self
    have behind :=
      ih fun other listed =>
        neutral other (List.mem_cons_of_mem byte listed)
    intro depth rest inside
    rw [cons_append, nestedSpan.eq_def]
    simp only [unquoted, openBrace, openBracket, closeBrace, closeBracket,
      or_self, if_false, behind depth rest inside, length_cons]
    omega

/-- A string passes whatever it holds. -/
theorem Quoted.passes
    (quoted : Quoted body) :
    Passes (0x22 :: (body ++ [0x22])) := by
  intro depth rest inside
  have behind := quoted.nestedSpan depth rest
  rw [cons_append, append_assoc, singleton_append,
    JsonSpan.nestedSpan.eq_def]
  simp only [if_true, behind, length_cons, length_append,
    length_nil]
  omega

/-- Matched brackets bring the depth back. -/
theorem nestedSpan_bracketed
    (opens : opening = 0x7b ∨ opening = 0x5b)
    (closes : closing = 0x7d ∨ closing = 0x5d)
    (passes : Passes inner)
    {depth : Int}
    (notBelow : 0 ≤ depth)
    (rest : Bytes) :
    nestedSpan depth false (opening :: (inner ++ closing :: rest)) =
      inner.length + 2 +
        if depth = 0 then 0 else nestedSpan depth false rest := by
  have unquoted : opening ≠ 0x22 := by
    rcases opens with rfl | rfl <;> decide
  have closingUnquoted : closing ≠ 0x22 := by
    rcases closes with rfl | rfl <;> decide
  have closingCloses : ¬ (closing = 0x7b ∨ closing = 0x5b) := by
    rcases closes with rfl | rfl <;> decide
  have close :
      nestedSpan (depth + 1) false (closing :: rest) =
        1 + if depth = 0 then 0 else nestedSpan depth false rest := by
    rw [nestedSpan.eq_def]
    simp only [closingUnquoted, closingCloses, closes, if_false, if_true,
      Int.add_sub_cancel]
    split
    · rfl
    · rfl
  rw [nestedSpan.eq_def]
  simp only [unquoted, opens, if_false, if_true,
    passes (depth + 1) _ (by omega), close]
  omega

theorem Passes.bracketed
    (opens : opening = 0x7b ∨ opening = 0x5b)
    (closes : closing = 0x7d ∨ closing = 0x5d)
    (passes : Passes inner) :
    Passes (opening :: (inner ++ [closing])) := by
  intro depth rest inside
  have span :=
    nestedSpan_bracketed opens closes passes (by omega : 0 ≤ depth) rest
  rw [if_neg (by omega)] at span
  rw [cons_append, append_assoc, singleton_append, span]
  simp only [length_cons, length_append, length_nil]

/-! ## Sources -/

/-- A byte a scalar may hold. -/
def Scalar (byte : UInt8) : Prop :=
  scalarByte byte = true ∧ Neutral byte

instance (byte : UInt8) : Decidable (Neutral byte) :=
  inferInstanceAs (Decidable (_ ∧ _))

instance (byte : UInt8) : Decidable (Scalar byte) :=
  inferInstanceAs (Decidable (_ ∧ _))

theorem scalar_of_isDigit
    {byte : UInt8}
    (digit : isDigit byte = true) :
    Scalar byte := by
  have other
      {letter : UInt8}
      (isLetter : isDigit letter = false) :
      byte ≠ letter := by
    rintro rfl
    simp [isLetter] at digit
  refine ⟨?_, other (by decide), ⟨other (by decide), other (by decide)⟩,
    other (by decide), other (by decide)⟩
  simp only [scalarByte, jsonSpace, other (show isDigit 0x2c = false by decide),
    other (show isDigit 0x7d = false by decide),
    other (show isDigit 0x5d = false by decide),
    other (show isDigit 0x20 = false by decide),
    other (show isDigit 0x0a = false by decide),
    other (show isDigit 0x0d = false by decide),
    other (show isDigit 0x09 = false by decide)]
  rfl

theorem scalar_of_digits
    {digits : Bytes}
    (run : Digits digits) :
    ∀ byte ∈ digits, Scalar byte :=
  fun byte listed => scalar_of_isDigit (run.all byte listed)

theorem scalar_of_whole
    {whole : Bytes}
    (isWhole : WholePart whole) :
    ∀ byte ∈ whole, Scalar byte := by
  cases isWhole with
  | zero => decide
  | digits run _ => exact scalar_of_digits run

theorem scalar_of_fraction
    {fraction : Bytes}
    (isFraction : FractionPart fraction) :
    ∀ byte ∈ fraction, Scalar byte := by
  cases isFraction with
  | absent => nofun
  | digits run =>
    intro byte listed
    rcases List.mem_cons.mp listed with rfl | digit
    · decide
    · exact scalar_of_digits run byte digit

theorem scalar_of_exponent
    {exponent : Bytes}
    (isExponent : ExponentPart exponent) :
    ∀ byte ∈ exponent, Scalar byte := by
  cases isExponent with
  | absent => nofun
  | digits marks signs run =>
    intro byte listed
    rcases List.mem_cons.mp listed with rfl | behind
    · rcases marks with rfl | rfl <;> decide
    · rcases List.mem_append.mp behind with sign | digit
      · rcases signs with rfl | rfl | rfl
        · cases sign
        · rw [List.mem_singleton.mp sign]
          decide
        · rw [List.mem_singleton.mp sign]
          decide
      · exact scalar_of_digits run byte digit

theorem scalar_of_number
    (isNumber : NumberText text) :
    ∀ byte ∈ text, Scalar byte := by
  cases isNumber with
  | parts signs isWhole isFraction isExponent =>
    intro byte listed
    rcases List.mem_append.mp listed with sign | unsigned
    · rcases signs with rfl | rfl
      · cases sign
      · rw [List.mem_singleton.mp sign]
        decide
    · rcases List.mem_append.mp unsigned with whole | behind
      · exact scalar_of_whole isWhole byte whole
      · rcases List.mem_append.mp behind with fraction | exponent
        · exact scalar_of_fraction isFraction byte fraction
        · exact scalar_of_exponent isExponent byte exponent

theorem passes_scalar
    (scalar : ∀ byte ∈ text, Scalar byte) :
    Passes text :=
  passes_neutral fun byte listed => (scalar byte listed).2

theorem passes_blank
    (blank : Blank text) :
    Passes text := by
  refine passes_neutral fun byte listed => ?_
  have isBlank := blank byte listed
  simp only [isWhitespace, Bool.or_eq_true, decide_eq_true_eq] at isBlank
  rcases isBlank with ((rfl | rfl) | rfl) | rfl <;> decide

theorem passes_separated
    {texts : List Bytes}
    (each : ∀ text ∈ texts, Passes text) :
    Passes (separated texts) := by
  induction texts with
  | nil => exact passes_nil
  | cons first texts ih =>
    have passesFirst := each first mem_cons_self
    have passesRest :=
      ih fun text listed =>
        each text (List.mem_cons_of_mem first listed)
    cases texts with
    | nil => exact passesFirst
    | cons second others =>
      have comma : Passes [0x2c] := passes_neutral (by decide)
      exact passesFirst.append (comma.append passesRest)

theorem passes_item
    {item : Item}
    (spaced : item.Spaced)
    (passes : Passes item.text) :
    Passes item.source :=
  (passes_blank spaced.lead).append (passes.append (passes_blank spaced.trail))

theorem passes_member
    {member : Member}
    (spaced : member.Spaced)
    (passes : Passes member.item.text) :
    Passes member.source := by
  have name := (quoted_of_stringBody spaced.spells).passes
  have colon : Passes [0x3a] := passes_neutral (by decide)
  have whole :=
    (passes_blank spaced.lead).append
      (name.append ((passes_blank spaced.gap).append
        (colon.append (passes_item spaced.item passes))))
  simpa [Member.source] using whole

/-- So do an array's elements, -/
theorem passes_items
    {items : List Item}
    (spaced : ∀ item ∈ items, item.Spaced)
    (passes : ∀ item ∈ items, Passes item.text) :
    Passes (separated (items.map Item.source)) := by
  refine passes_separated fun text listed => ?_
  obtain ⟨item, member, rfl⟩ := List.mem_map.mp listed
  exact passes_item (spaced item member) (passes item member)

/-- an object's members, -/
theorem passes_members
    {members : List Member}
    (spaced : ∀ member ∈ members, member.Spaced)
    (passes : ∀ member ∈ members, Passes member.item.text) :
    Passes (separated (members.map Member.source)) := by
  refine passes_separated fun text listed => ?_
  obtain ⟨member, memberListed, rfl⟩ := List.mem_map.mp listed
  exact passes_member (spaced member memberListed)
    (passes member memberListed)

/-- and every value. -/
theorem passes_source
    {value : Json.JsonValue}
    (isSource : Source text value) :
    Passes text := by
  induction isSource with
  | null => exact passes_scalar (by decide)
  | true => exact passes_scalar (by decide)
  | false => exact passes_scalar (by decide)
  | number isNumber _ => exact passes_scalar (scalar_of_number isNumber)
  | string spells => exact (quoted_of_stringBody spells).passes
  | emptyArray blank =>
    exact (passes_blank blank).bracketed (Or.inr rfl) (Or.inr rfl)
  | array _ spaced _ passes =>
    exact (passes_items spaced passes).bracketed (Or.inr rfl) (Or.inr rfl)
  | emptyObject blank =>
    exact (passes_blank blank).bracketed (Or.inl rfl) (Or.inl rfl)
  | object _ spaced _ _ passes =>
    exact (passes_members spaced passes).bracketed (Or.inl rfl) (Or.inl rfl)

/-! ## Where a value ends -/

/-- A scalar may end in front of this text. -/
def EndsScalar (rest : Bytes) : Prop :=
  ∀ byte, rest.head? = some byte → scalarByte byte = false

theorem takeWhile_scalar
    {text rest : Bytes}
    (scalar : ∀ byte ∈ text, Scalar byte)
    (ends : EndsScalar rest) :
    (text ++ rest).takeWhile scalarByte = text := by
  rw [List.takeWhile_append_of_pos fun byte listed => (scalar byte listed).1]
  cases rest with
  | nil => simp
  | cons byte rest => simp [ends byte rfl]

/-- A scalar is skipped up to what ends it, -/
theorem skipValue_scalar
    {text rest : Bytes}
    (nonempty : text ≠ [])
    (scalar : ∀ byte ∈ text, Scalar byte)
    (ends : EndsScalar rest) :
    skipValue (text ++ rest) = text.length := by
  cases text with
  | nil => exact absurd rfl nonempty
  | cons first others =>
    obtain ⟨-, unquoted, ⟨notBrace, notBracket⟩, -⟩ :=
      scalar first mem_cons_self
    have span := takeWhile_scalar scalar ends
    rw [cons_append] at span ⊢
    unfold skipValue
    simp only [unquoted, notBrace, notBracket, or_self, if_false, span]

/-- an array or object up to its own bracket, -/
theorem skipValue_bracketed
    (opens : opening = 0x7b ∨ opening = 0x5b)
    (closes : closing = 0x7d ∨ closing = 0x5d)
    (passes : Passes inner)
    (rest : Bytes) :
    skipValue (opening :: (inner ++ [closing]) ++ rest) =
      (opening :: (inner ++ [closing])).length := by
  have span := nestedSpan_bracketed opens closes passes (Int.le_refl 0) rest
  have unquoted : opening ≠ 0x22 := by
    rcases opens with rfl | rfl <;> decide
  rw [cons_append, append_assoc, singleton_append]
  unfold skipValue
  simp only [unquoted, opens, if_false, if_true, span, length_cons,
    length_append, length_nil]

/-- a string up to its quote, -/
theorem skipValue_string
    (quoted : Quoted body)
    (rest : Bytes) :
    skipValue (0x22 :: (body ++ [0x22]) ++ rest) =
      (0x22 :: (body ++ [0x22]) : Bytes).length := by
  have span := quoted.stringSpan rest
  rw [cons_append, append_assoc, singleton_append]
  unfold skipValue
  simp only [if_true, span, length_cons, length_append,
    length_nil]
  rw [if_pos (by omega)]
  omega

/-- and so every value is skipped whole. -/
theorem skipValue_source
    {value : Json.JsonValue}
    (isSource : Source text value)
    {rest : Bytes}
    (ends : EndsScalar rest) :
    skipValue (text ++ rest) = text.length := by
  cases isSource with
  | null => exact skipValue_scalar (by decide) (by decide) ends
  | true => exact skipValue_scalar (by decide) (by decide) ends
  | false => exact skipValue_scalar (by decide) (by decide) ends
  | number isNumber _ =>
    refine skipValue_scalar ?_ (scalar_of_number isNumber) ends
    obtain ⟨first, others, rfl, -⟩ := isNumber.head
    simp
  | string spells =>
    exact skipValue_string (quoted_of_stringBody spells) rest
  | emptyArray blank =>
    exact skipValue_bracketed (Or.inr rfl) (Or.inr rfl)
      (passes_blank blank) rest
  | array _ spaced each =>
    exact skipValue_bracketed (Or.inr rfl) (Or.inr rfl)
      (passes_items spaced fun item listed =>
        passes_source (each item listed)) rest
  | emptyObject blank =>
    exact skipValue_bracketed (Or.inl rfl) (Or.inl rfl)
      (passes_blank blank) rest
  | object _ spaced _ each =>
    exact skipValue_bracketed (Or.inl rfl) (Or.inl rfl)
      (passes_members spaced fun member listed =>
        passes_source (each member listed)) rest

end Aeon.JsonSpan
