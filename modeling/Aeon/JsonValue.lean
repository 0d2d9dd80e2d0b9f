import Aeon.Binary64
import Aeon.Bytes

namespace Aeon.Json

/-!
# The JSON reader

`JsonValue` and its recursive-descent parser, which the artifact loader and the
server read their JSON with.  A number is the finite double `std::stod` gives, as
the rational it stands for.  A string is a byte sequence.  An object keeps its
members in source order; the source keeps them in a map and only looks keys up.
-/

/-- `JsonValue`. -/
inductive JsonValue where
  | null
  | bool (value : Bool)
  | number (value : ℚ)
  | string (text : Bytes)
  | array (elements : List JsonValue)
  | object (members : List (Bytes × JsonValue))

/-! ## The cursor -/

/-- `JsonValue::Parser`: the position and the text from there on. -/
structure Cursor where
  position : Nat := 0
  rest : Bytes
  deriving Repr, DecidableEq

namespace Cursor

/-- `Parser::fail`. -/
def fail
    {Value : Type}
    (cursor : Cursor)
    (message : String) : Except Bytes Value :=
  .error (bytes ("JSON parse error at position " ++ toString cursor.position ++
    ": " ++ message))

/-- The cursor `count` bytes on. -/
def skip
    (cursor : Cursor)
    (count : Nat) : Cursor :=
  { position := cursor.position + count, rest := cursor.rest.drop count }

end Cursor

/-- Whether `skip_whitespace` passes over a byte. -/
def isWhitespace (byte : UInt8) : Bool :=
  byte = 0x20 || byte = 0x0a || byte = 0x0d || byte = 0x09

/-- `Parser::skip_whitespace`. -/
def skipWhitespace (cursor : Cursor) : Cursor :=
  cursor.skip (cursor.rest.takeWhile isWhitespace).length

/-- `Parser::expect`. -/
def expect
    (cursor : Cursor)
    (expected : UInt8) : Except Bytes Cursor :=
  if cursor.rest.head? = some expected then
    .ok (cursor.skip 1)
  else
    cursor.fail
      ("expected '" ++ String.singleton (Char.ofNat expected.toNat) ++ "'")

/-! ## Numbers -/

/-- A decimal digit. -/
def isDigit (byte : UInt8) : Bool :=
  0x30 ≤ byte && byte ≤ 0x39

/-- The cursor past the digits in front of it. -/
def skipDigits (cursor : Cursor) : Cursor :=
  cursor.skip (cursor.rest.takeWhile isDigit).length

/-- The number a run of digits stands for. -/
def digitsValue (digits : Bytes) : Nat :=
  digits.foldl (fun value digit => value * 10 + (digit.toNat - 0x30)) 0

/-- The exact value of a literal the parser has scanned. -/
def decimalValue (literal : Bytes) : ℚ :=
  let negative := literal.head? = some 0x2d
  let unsigned := if negative then literal.drop 1 else literal
  let whole := unsigned.takeWhile isDigit
  let behind := unsigned.dropWhile isDigit
  let fraction :=
    if behind.head? = some 0x2e then (behind.drop 1).takeWhile isDigit else []
  let scaled :=
    if behind.head? = some 0x2e then (behind.drop 1).dropWhile isDigit else behind
  let marked := scaled.drop 1
  let exponentDigits :=
    if marked.head? = some 0x2d ∨ marked.head? = some 0x2b then marked.drop 1
    else marked
  let exponent : Int :=
    if marked.head? = some 0x2d then -(digitsValue exponentDigits : Int)
    else digitsValue exponentDigits
  let magnitude : ℚ :=
    digitsValue (whole ++ fraction) * 10 ^ (exponent - fraction.length)
  if negative then -magnitude else magnitude

/-- `std::stod` on such a literal; a range error throws. -/
def stod (literal : Bytes) : Option ℚ :=
  Binary64.nearest (decimalValue literal)

/-- The digits that must follow a point or an exponent mark. -/
def requireDigits
    (cursor : Cursor)
    (message : String) : Except Bytes Cursor :=
  if cursor.rest.head?.any isDigit then .ok (skipDigits cursor)
  else cursor.fail message

/-- The fractional part of a number, if it has one. -/
def parseFraction (cursor : Cursor) : Except Bytes Cursor :=
  if cursor.rest.head? = some 0x2e then
    requireDigits (cursor.skip 1) "invalid fractional part"
  else
    .ok cursor

/-- The exponent of a number, if it has one. -/
def parseExponent (cursor : Cursor) : Except Bytes Cursor :=
  if cursor.rest.head? = some 0x65 ∨ cursor.rest.head? = some 0x45 then
    let marked := cursor.skip 1
    let signed :=
      if marked.rest.head? = some 0x2b ∨ marked.rest.head? = some 0x2d then
        marked.skip 1
      else
        marked
    requireDigits signed "invalid exponent"
  else
    .ok cursor

/-- `Parser::parse_number`. -/
def parseNumber (start : Cursor) : Except Bytes (JsonValue × Cursor) := do
  let signed := if start.rest.head? = some 0x2d then start.skip 1 else start
  if ¬ signed.rest.head?.any isDigit then
    signed.fail "expected value"
  else
    -- No digit may follow a leading zero.
    let whole :=
      if signed.rest.head? = some 0x30 then signed.skip 1 else skipDigits signed
    let fraction ← parseFraction whole
    let ended ← parseExponent fraction
    match stod (start.rest.take (ended.position - start.position)) with
    | none => ended.fail "invalid number"
    | some value => .ok (.number value, ended)

/-! ## Strings -/

/-- `Parser::hex_value`. -/
def hexValue (byte : UInt8) : Option Nat :=
  if 0x30 ≤ byte && byte ≤ 0x39 then some (byte.toNat - 0x30)
  else if 0x61 ≤ byte && byte ≤ 0x66 then some (byte.toNat - 0x61 + 10)
  else if 0x41 ≤ byte && byte ≤ 0x46 then some (byte.toNat - 0x41 + 10)
  else none

/-- The digit loop of `Parser::read_hex4`. -/
def readHexDigits :
    Nat → Nat → Cursor → Except Bytes (Nat × Cursor)
  | 0, codepoint, cursor => .ok (codepoint, cursor)
  | digits + 1, codepoint, cursor =>
    match cursor.rest with
    | [] => cursor.fail "truncated unicode escape"
    | byte :: _ =>
      match hexValue byte with
      | none => (cursor.skip 1).fail "invalid unicode escape"
      | some digit =>
        readHexDigits digits (codepoint * 16 + digit) (cursor.skip 1)

/-- `Parser::read_hex4`. -/
def readHex4 (cursor : Cursor) : Except Bytes (Nat × Cursor) :=
  if cursor.rest.length < 4 then
    cursor.fail "truncated unicode escape"
  else
    readHexDigits 4 0 cursor

/-- `Parser::append_code_point`: what it appends. -/
def codePointBytes (codepoint : Nat) : Bytes :=
  let tail (unit : Nat) : UInt8 := UInt8.ofNat (0x80 + codepoint / unit % 0x40)
  if codepoint ≤ 0x7f then
    [UInt8.ofNat codepoint]
  else if codepoint ≤ 0x7ff then
    [UInt8.ofNat (0xc0 + codepoint / 0x40), tail 1]
  else if codepoint ≤ 0xffff then
    [UInt8.ofNat (0xe0 + codepoint / 0x1000), tail 0x40, tail 1]
  else
    [UInt8.ofNat (0xf0 + codepoint / 0x40000), tail 0x1000, tail 0x40, tail 1]

/-- Whether a code point is a high surrogate. -/
def isHighSurrogate (codepoint : Nat) : Bool :=
  0xd800 ≤ codepoint && codepoint ≤ 0xdbff

/-- Whether a code point is a low surrogate. -/
def isLowSurrogate (codepoint : Nat) : Bool :=
  0xdc00 ≤ codepoint && codepoint ≤ 0xdfff

/-- The last step of `Parser::append_unicode_escape`: a stray surrogate is replaced. -/
def unpaired (codepoint : Nat) : Bytes :=
  codePointBytes
    (if 0xd800 ≤ codepoint ∧ codepoint ≤ 0xdfff then 0xfffd else codepoint)

/-- `Parser::append_unicode_escape`. -/
def parseUnicodeEscape
    (cursor : Cursor) : Except Bytes (Bytes × Cursor) := do
  let (codepoint, after) ← readHex4 cursor
  if isHighSurrogate codepoint ∧ (bytes "\\u").isPrefixOf after.rest then
    let (low, behind) ← readHex4 (after.skip 2)
    if isLowSurrogate low then
      .ok (unpaired (0x10000 + (codepoint - 0xd800) * 0x400 + (low - 0xdc00)),
        behind)
    else
      -- The second escape is left for its own turn.
      .ok (unpaired 0xfffd, after)
  else
    .ok (unpaired codepoint, after)

/-- The one-byte escapes. -/
def simpleEscape (escaped : UInt8) : Option UInt8 :=
  if escaped = 0x22 then some 0x22
  else if escaped = 0x5c then some 0x5c
  else if escaped = 0x2f then some 0x2f
  else if escaped = 0x62 then some 0x08
  else if escaped = 0x66 then some 0x0c
  else if escaped = 0x6e then some 0x0a
  else if escaped = 0x72 then some 0x0d
  else if escaped = 0x74 then some 0x09
  else none

/-- The loop of `Parser::parse_string`, with `rounds` bytes or escapes allowed. -/
def parseStringBody :
    Nat → Bytes → Cursor → Except Bytes (Bytes × Cursor)
  | 0, _, cursor => cursor.fail "unterminated string"
  | rounds + 1, result, cursor =>
    match cursor.rest with
    | [] => cursor.fail "unterminated string"
    | value :: rest =>
      let next := cursor.skip 1
      if value = 0x22 then
        .ok (result, next)
      else if value < 0x20 then
        next.fail "control character in string"
      else if value ≠ 0x5c then
        parseStringBody rounds (result ++ [value]) next
      else
        match rest with
        | [] => next.fail "unterminated escape"
        | escaped :: _ =>
          let body := next.skip 1
          match simpleEscape escaped with
          | some plain =>
            parseStringBody rounds (result ++ [plain]) body
          | none =>
            if escaped = 0x75 then do
              let (encoded, after) ← parseUnicodeEscape body
              parseStringBody rounds (result ++ encoded) after
            else
              body.fail "invalid string escape"

/-- `Parser::parse_string`. -/
def parseString
    (cursor : Cursor) : Except Bytes (Bytes × Cursor) := do
  let opened ← expect cursor 0x22
  parseStringBody (opened.rest.length + 1) [] opened

/-! ## Values -/

/-- `Parser::parse_literal`. -/
def parseLiteral
    (cursor : Cursor)
    (literal : String)
    (value : JsonValue) : Except Bytes (JsonValue × Cursor) :=
  if (bytes literal).isPrefixOf cursor.rest then
    .ok (value, cursor.skip (bytes literal).length)
  else
    cursor.fail "invalid literal"

mutual

/-- `Parser::parse_value`, with `depth` nested calls allowed. -/
def parseValue :
    Nat → Cursor → Except Bytes (JsonValue × Cursor)
  | 0, cursor => cursor.fail "unexpected end of input"
  | depth + 1, start => do
      let cursor := skipWhitespace start
      match cursor.rest with
      | [] => cursor.fail "unexpected end of input"
      | byte :: _ =>
        if byte = 0x6e then parseLiteral cursor "null" .null
        else if byte = 0x74 then parseLiteral cursor "true" (.bool true)
        else if byte = 0x66 then parseLiteral cursor "false" (.bool false)
        else if byte = 0x22 then
          let (text, after) ← parseString cursor
          .ok (.string text, after)
        else if byte = 0x5b then
          let opened := skipWhitespace (cursor.skip 1)
          if opened.rest.head? = some 0x5d then
            .ok (.array [], opened.skip 1)
          else
            let (elements, closed) ← parseElements depth [] opened
            .ok (.array elements, closed)
        else if byte = 0x7b then
          let opened := skipWhitespace (cursor.skip 1)
          if opened.rest.head? = some 0x7d then
            .ok (.object [], opened.skip 1)
          else
            let (members, closed) ← parseMembers depth [] opened
            .ok (.object members, closed)
        else parseNumber cursor

/-- The loop of `Parser::parse_array`. -/
def parseElements :
    Nat → List JsonValue → Cursor → Except Bytes (List JsonValue × Cursor)
  | 0, _, cursor => cursor.fail "unexpected end of input"
  | depth + 1, values, cursor => do
      let (value, after) ← parseValue depth cursor
      let next := skipWhitespace after
      if next.rest.head? = some 0x5d then
        .ok (values ++ [value], next.skip 1)
      else
        let comma ← expect next 0x2c
        parseElements depth (values ++ [value]) comma

/-- The loop of `Parser::parse_object`. -/
def parseMembers :
    Nat → List (Bytes × JsonValue) → Cursor →
      Except Bytes (List (Bytes × JsonValue) × Cursor)
  | 0, _, cursor => cursor.fail "unexpected end of input"
  | depth + 1, values, start => do
      let cursor := skipWhitespace start
      if cursor.rest.head? ≠ some 0x22 then
        cursor.fail "expected object key"
      else
        let (key, named) ← parseString cursor
        let colon ← expect (skipWhitespace named) 0x3a
        let (value, after) ← parseValue depth colon
        if (values.lookup key).isSome then
          after.fail "duplicate object key"
        else
          let next := skipWhitespace after
          if next.rest.head? = some 0x7d then
            .ok (values ++ [(key, value)], next.skip 1)
          else
            let comma ← expect next 0x2c
            parseMembers depth (values ++ [(key, value)]) comma

end

/--
`JsonValue::parse`.  Two nested calls read at least one byte between them, so the
calls allowed here are never used up.
-/
def parse (text : Bytes) : Except Bytes JsonValue := do
  let (value, after) ←
    parseValue (2 * text.length + 2) (skipWhitespace { rest := text })
  let ended := skipWhitespace after
  if ended.rest.isEmpty then
    .ok value
  else
    ended.fail "trailing characters"

/-! ## Access -/

namespace JsonValue

/-- `JsonValue::as_number`. -/
def asNumber : JsonValue → Except Bytes ℚ
  | .number value => .ok value
  | _ => .error (bytes "JSON value is not a number")

/--
`JsonValue::as_int64`.  The upper comparison is with `2^63`, the double nearest to
the largest signed integer, so `2^63` itself reaches a cast that C++ leaves
undefined; `indefinite` is whatever the platform makes of it.
-/
def asInt64
    (indefinite : Int)
    (value : JsonValue) : Except Bytes Int := do
  let number ← value.asNumber
  if number.den ≠ 1 ∨ number < -(2 ^ 63) ∨ 2 ^ 63 < number then
    .error (bytes "JSON number is not a signed 64-bit integer")
  else if number = 2 ^ 63 then
    .ok indefinite
  else
    .ok number.num

/-- `JsonValue::as_string`. -/
def asString : JsonValue → Except Bytes Bytes
  | .string text => .ok text
  | _ => .error (bytes "JSON value is not a string")

/-- `JsonValue::as_array`. -/
def asArray : JsonValue → Except Bytes (List JsonValue)
  | .array elements => .ok elements
  | _ => .error (bytes "JSON value is not an array")

/-- `JsonValue::find`. -/
def find
    (value : JsonValue)
    (key : Bytes) : Option JsonValue :=
  match value with
  | .object members => members.lookup key
  | _ => none

/-- `JsonValue::at`. -/
def get
    (value : JsonValue)
    (key : String) : Except Bytes JsonValue :=
  match value.find (bytes key) with
  | none => .error (bytes ("JSON object is missing key: " ++ key))
  | some member => .ok member

/-- An integer below the exponent of a double's mantissa is read back. -/
theorem asInt64_natCast
    (indefinite : Int)
    {value : Nat}
    (small : value < 2 ^ 63) :
    (JsonValue.number (value : ℚ)).asInt64 indefinite = .ok (value : Int) := by
  have below : (value : ℚ) < 2 ^ 63 := by exact_mod_cast small
  have positive : (0 : ℚ) ≤ value := Nat.cast_nonneg value
  have inRange : ¬ ((value : ℚ).den ≠ 1 ∨ (value : ℚ) < -(2 ^ 63) ∨
      2 ^ 63 < (value : ℚ)) := by
    rintro (fractional | low | high)
    · exact fractional (Rat.den_natCast value)
    · have : (-(2 ^ 63) : ℚ) < 0 := by norm_num
      exact absurd (lt_trans low this) (not_lt.mpr positive)
    · exact absurd below (not_lt.mpr high.le)
  simp only [asInt64, asNumber, ok_bind, inRange, if_false, below.ne]
  rw [Rat.num_natCast]

end JsonValue

end Aeon.Json
