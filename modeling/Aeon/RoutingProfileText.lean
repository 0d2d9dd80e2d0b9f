import Aeon.JsonWriter
import Aeon.EscapedText

namespace Aeon.RoutingProfile

open Json (decimal hexValue simpleEscape)
open Server (jsonEscape jsonEscapeByte lowerHex)

/-!
# The text helpers of a routing profile

The part of `routing_profile_json.hpp` that the store reads its metadata with.  A cursor
into a text is the text that is left.  The escaper is the one of the server.
-/

/-! ## Reading -/

/-- `skip_whitespace`. -/
def skipWhitespace (input : Bytes) : Bytes :=
  input.dropWhile fun byte =>
    byte == 0x20 || byte == 0x09 || byte == 0x0a || byte == 0x0d

/-- `expect`. -/
def expect
    (expected : UInt8)
    (input : Bytes) : Except Bytes Bytes :=
  match skipWhitespace input with
  | [] => .error (bytes "invalid JSONL record: expected '" ++ [expected, 0x27])
  | byte :: rest =>
    if byte = expected then .ok rest
    else .error (bytes "invalid JSONL record: expected '" ++ [expected, 0x27])

/-- `append_utf8`: what it appends. -/
def appendUtf8 (codepoint : Nat) : Bytes :=
  if codepoint ≤ 0x7f then
    [UInt8.ofNat codepoint]
  else if codepoint ≤ 0x7ff then
    [UInt8.ofNat (0xc0 ||| codepoint >>> 6), UInt8.ofNat (0x80 ||| codepoint &&& 0x3f)]
  else
    [UInt8.ofNat (0xe0 ||| codepoint >>> 12),
      UInt8.ofNat (0x80 ||| codepoint >>> 6 &&& 0x3f),
      UInt8.ofNat (0x80 ||| codepoint &&& 0x3f)]

/-- The digits of a unicode escape, from the one that is read first. -/
def unicodeDigits : Nat → List UInt8 → Except Bytes Nat
  | codepoint, [] => .ok codepoint
  | codepoint, digit :: digits =>
    match hexValue digit with
    | some value => unicodeDigits (codepoint <<< 4 ||| value) digits
    | none => .error (bytes "invalid JSONL record: malformed unicode escape")

/-- The unicode case of the escape switch. -/
def unicodeEscape (digits : List UInt8) : Except Bytes Bytes := do
  let codepoint ← unicodeDigits 0 digits
  if 0xd800 ≤ codepoint ∧ codepoint ≤ 0xdfff then
    .error (bytes "invalid JSONL record: surrogate escape is unsupported")
  else
    .ok (appendUtf8 codepoint)

/-- A value with more in front of it. -/
def prepend
    (piece : Bytes)
    (parsed : Bytes × Bytes) : Bytes × Bytes :=
  (piece ++ parsed.1, parsed.2)

/-- The loop of `parse_string`: the value, and what is behind its closing quote. -/
def parseStringBody : Bytes → Except Bytes (Bytes × Bytes)
  | [] => .error (bytes "invalid JSONL record: unterminated string")
  | 0x5c :: [] => .error (bytes "invalid JSONL record: incomplete escape")
  | 0x5c :: 0x75 :: first :: second :: third :: fourth :: rest =>
    match unicodeEscape [first, second, third, fourth] with
    | .error error => .error error
    | .ok piece => (parseStringBody rest).map (prepend piece)
  | 0x5c :: escaped :: rest =>
    match simpleEscape escaped with
    | some byte => (parseStringBody rest).map (prepend [byte])
    | none =>
      if escaped = 0x75 then
        .error (bytes "invalid JSONL record: incomplete unicode escape")
      else
        .error (bytes "invalid JSONL record: unsupported escape")
  | byte :: rest =>
    if byte = 0x22 then .ok ([], rest)
    else if byte < 0x20 then
      .error (bytes "invalid JSONL record: control character in string")
    else
      (parseStringBody rest).map (prepend [byte])

/-- `parse_string`. -/
def parseString (input : Bytes) : Except Bytes (Bytes × Bytes) :=
  match skipWhitespace input with
  | 0x22 :: rest => parseStringBody rest
  | _ => .error (bytes "invalid JSONL record: expected string")

/-- The string behind the name of a field and a colon. -/
def fieldValue (text : Bytes) : Except Bytes Bytes := do
  let rest ← expect 0x3a text
  let (value, _) ← parseString rest
  .ok value

/-- `extract_json_string_field`. -/
def extractJsonStringField
    (object field : Bytes) : Except Bytes Bytes :=
  let marker := Bytes.quoted field
  match Bytes.find marker object with
  | none => .error (bytes "routing profile metadata is missing " ++ field)
  | some fieldPos => fieldValue (object.drop (fieldPos + marker.length))

/-! ## What the escaper writes is read back -/

/-- A byte that stands for itself. -/
def plain (byte : UInt8) : Bool :=
  byte != 0x22 && byte != 0x5c && !decide (byte < 0x20)

theorem parseStringBody_plain
    {byte : UInt8}
    (passed : plain byte = true)
    (rest : Bytes) :
    parseStringBody (byte :: rest) = (parseStringBody rest).map (prepend [byte]) := by
  simp only [plain, Bool.and_eq_true, bne_iff_ne, Bool.not_eq_true',
    decide_eq_false_iff_not] at passed
  rw [parseStringBody, if_neg passed.1.1, if_neg passed.2]
  · exact fun escape _ => passed.1.2 escape
  · intros
    exact passed.1.2 ‹_›
  · intros
    exact passed.1.2 ‹_›

/-- A control character comes back from its escape. -/
theorem parseStringBody_control
    {value : Nat}
    (control : value < 0x20)
    (rest : Bytes) :
    parseStringBody (jsonEscapeByte (UInt8.ofNat value) ++ rest) =
      (parseStringBody rest).map (prepend [UInt8.ofNat value]) := by
  interval_cases value <;> rfl

theorem jsonEscapeByte_plain_values : ∀ value < 256,
    plain (UInt8.ofNat value) = true →
      jsonEscapeByte (UInt8.ofNat value) = [UInt8.ofNat value] := by
  decide +kernel

/-- A plain byte is written as it is. -/
theorem jsonEscapeByte_plain
    {byte : UInt8}
    (passed : plain byte = true) :
    jsonEscapeByte byte = [byte] := by
  have value := jsonEscapeByte_plain_values byte.toNat byte.toNat_lt
  rw [UInt8.ofNat_toNat] at value
  exact value passed

/-- Every byte comes back from its escape. -/
theorem parseStringBody_escapeByte
    (byte : UInt8)
    (rest : Bytes) :
    parseStringBody (jsonEscapeByte byte ++ rest) =
      (parseStringBody rest).map (prepend [byte]) := by
  by_cases control : byte < 0x20
  · have escaped := parseStringBody_control (UInt8.lt_iff_toNat_lt.mp control) rest
    rwa [UInt8.ofNat_toNat] at escaped
  · by_cases quote : byte = 0x22
    · subst quote
      rfl
    · by_cases backslash : byte = 0x5c
      · subst backslash
        rfl
      · have passed : plain byte = true := by
          simp [plain, quote, backslash, control]
        rw [jsonEscapeByte_plain passed, List.singleton_append,
          parseStringBody_plain passed]

/-- The parser undoes the escaper up to the closing quote. -/
theorem parseStringBody_escape
    (value rest : Bytes) :
    parseStringBody (jsonEscape value ++ 0x22 :: rest) = .ok (value, rest) := by
  induction value with
  | nil => rfl
  | cons byte value ih =>
    rw [jsonEscape, List.flatMap_cons, List.append_assoc, parseStringBody_escapeByte,
      ← jsonEscape, ih]
    rfl

/-! ## Where a quoted name occurs in a written value -/

theorem jsonEscapeByte_values : ∀ value < 256,
    plain (UInt8.ofNat value) = true ∨ value = 0x22 ∨
      ((jsonEscapeByte (UInt8.ofNat value)).head? = some 0x5c ∧
        0x22 ∉ (jsonEscapeByte (UInt8.ofNat value)).tail) := by
  decide +kernel

theorem jsonEscapeByte_other (byte : UInt8) :
    (∃ other, plain other = true ∧ byte = other) ∨ byte = 0x22 ∨
      ∃ rest, jsonEscapeByte byte = 0x5c :: rest ∧ 0x22 ∉ rest := by
  have values := jsonEscapeByte_values byte.toNat byte.toNat_lt
  rw [UInt8.ofNat_toNat] at values
  rcases values with isPlain | quote | ⟨backslash, lacking⟩
  · exact Or.inl ⟨byte, isPlain, rfl⟩
  · exact Or.inr (Or.inl (UInt8.toNat_inj.mp quote))
  · obtain ⟨rest, escape⟩ := List.head?_eq_some_iff.mp backslash
    rw [escape] at lacking
    exact Or.inr (Or.inr ⟨rest, escape, lacking⟩)

/-- `json_escape` as an escaping of bytes. -/
def jsonEscaping : Escaping UInt8 where
  escape := jsonEscapeByte
  plain := plain
  literal := id
  quote := 0x22
  plain_ne_quote := rfl
  plain_ne_backslash := rfl
  escape_literal := fun _ => jsonEscapeByte_plain
  escape_quote := rfl
  other := jsonEscapeByte_other

/-- The name, or a quote and the name at the end. -/
def Collides (field value : Bytes) : Prop :=
  value = field ∨ 0x22 :: field <:+ value

/-- A field collides with a value as it does unescaped. -/
theorem collides_iff
    (field value : Bytes) :
    jsonEscaping.Collides field value ↔ Collides field value := by
  have spelled : jsonEscaping.spell field = field := List.map_id field
  rw [Escaping.Collides, spelled]
  rfl

end Aeon.RoutingProfile
