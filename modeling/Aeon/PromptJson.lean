import Aeon.Bytes
import Mathlib.Algebra.Group.Int.Defs

namespace Aeon.Text

/-!
# The prompt's JSON codec

`PromptJson` re-serializes tool schemas and tool-call arguments the way the
reference template does: members in source order, integers kept apart from
reals.  A value holds no ill-formed object here, since a member is a pair; the
source keeps keys and values in two vectors that it always extends together.

A real is kept as the literal it was read from.  What `strtod` and `python_real`
make of it is a parameter of the emission.
-/

/-- `PromptJson`. -/
inductive PromptJson where
  | null
  | bool (boolean : Bool)
  | int (integer : Int)
  | real (literal : Bytes)
  | string (text : Bytes)
  | array (elements : List PromptJson)
  | object (members : List (Bytes × PromptJson))

namespace PromptJson

/-! ## Emission -/

/-- A hexadecimal digit. -/
def hexDigit (value : UInt8) : UInt8 :=
  if value < 10 then 0x30 + value else 0x61 + (value - 10)

/-- One byte of `append_python_string`. -/
def escapeByte (byte : UInt8) : Bytes :=
  if byte = 0x22 then [0x5c, 0x22]
  else if byte = 0x5c then [0x5c, 0x5c]
  else if byte = 0x0a then bytes "\\n"
  else if byte = 0x0d then bytes "\\r"
  else if byte = 0x09 then bytes "\\t"
  else if byte = 0x08 then bytes "\\b"
  else if byte = 0x0c then bytes "\\f"
  else if byte < 0x20 then
    bytes "\\u00" ++ [hexDigit (byte >>> 4), hexDigit (byte &&& 0x0f)]
  else [byte]

/-- `append_python_string`. -/
def pythonString (text : Bytes) : Bytes :=
  [0x22] ++ text.flatMap escapeByte ++ [0x22]

section Emission

variable (pythonReal : Bytes → Bytes)

mutual

/-- `PromptJson::to_python_json`. -/
def toPythonJson : PromptJson → Bytes
  | .null => bytes "null"
  | .bool true => bytes "true"
  | .bool false => bytes "false"
  | .int integer => bytes (toString integer)
  | .real literal => pythonReal literal
  | .string text => pythonString text
  | .array elements => bytes "[" ++ elementsJson elements ++ bytes "]"
  | .object members => [0x7b] ++ membersJson members ++ [0x7d]

/-- The elements of an array, separated. -/
def elementsJson : List PromptJson → Bytes
  | [] => []
  | [element] => toPythonJson element
  | element :: elements =>
    toPythonJson element ++ bytes ", " ++ elementsJson elements

/-- The members of an object, separated. -/
def membersJson : List (Bytes × PromptJson) → Bytes
  | [] => []
  | [(key, value)] => pythonString key ++ bytes ": " ++ toPythonJson value
  | (key, value) :: members =>
    pythonString key ++ bytes ": " ++ toPythonJson value ++ bytes ", " ++
      membersJson members

end

end Emission

/-! ## Parsing -/

/-- `PromptJson::Parser`: the input left to read and its offset. -/
structure Cursor where
  position : Nat := 0
  rest : Bytes
  deriving Repr, DecidableEq

namespace Cursor

/-- `Parser::fail`. -/
def fail
    {Value : Type}
    (cursor : Cursor)
    (message : String) : Except Bytes Value :=
  .error (bytes ("PromptJson: " ++ message ++ " at offset " ++
    toString cursor.position))

/-- The cursor `count` bytes on. -/
def skip
    (cursor : Cursor)
    (count : Nat) : Cursor :=
  { position := cursor.position + count, rest := cursor.rest.drop count }

end Cursor

/-- Whether `skip_whitespace` passes over a byte. -/
def isWhitespace (byte : UInt8) : Bool :=
  byte = 0x20 || byte = 0x09 || byte = 0x0a || byte = 0x0d

/-- `Parser::skip_whitespace`. -/
def skipWhitespace (cursor : Cursor) : Cursor :=
  cursor.skip (cursor.rest.takeWhile isWhitespace).length

/-- `Parser::expect`. -/
def expect
    (cursor : Cursor)
    (expected : UInt8) : Except Bytes Cursor :=
  if cursor.rest.head? = some expected then
    .ok (cursor.skip 1)
  else
    cursor.fail
      ("expected '" ++ String.singleton (Char.ofNat expected.toNat) ++ "'")

/-- The value of a hexadecimal digit. -/
def hexValue (byte : UInt8) : Option UInt32 :=
  if 0x30 ≤ byte && byte ≤ 0x39 then some (byte - 0x30).toUInt32
  else if 0x61 ≤ byte && byte ≤ 0x66 then some (byte - 0x61 + 10).toUInt32
  else if 0x41 ≤ byte && byte ≤ 0x46 then some (byte - 0x41 + 10).toUInt32
  else none

/-- The four digits of a `\u` escape, from a cursor with four bytes left. -/
def parseHex :
    Nat → UInt32 → Cursor → Except Bytes (UInt32 × Cursor)
  | 0, codePoint, cursor => .ok (codePoint, cursor)
  | digits + 1, codePoint, cursor =>
    match cursor.rest with
    | [] => cursor.fail "truncated \\u escape"
    | byte :: _ =>
      match hexValue byte with
      | none => (cursor.skip 1).fail "invalid hex digit in \\u escape"
      | some value =>
        parseHex digits ((codePoint <<< 4) ||| value) (cursor.skip 1)

/-- The UTF-8 form of a code point, as the escape emits it. -/
def encodeEscape (codePoint : UInt32) : Bytes :=
  let lead (mark shift : UInt32) : UInt8 :=
    (mark ||| (codePoint >>> shift)).toUInt8
  let tail (shift : UInt32) : UInt8 :=
    (0x80 ||| ((codePoint >>> shift) &&& 0x3f)).toUInt8
  if codePoint < 0x80 then
    [codePoint.toUInt8]
  else if codePoint < 0x800 then
    [lead 0xc0 6, tail 0]
  else if codePoint < 0x10000 then
    [lead 0xe0 12, tail 6, tail 0]
  else
    [lead 0xf0 18, tail 12, tail 6, tail 0]

/-- The `\u` escape, after its `u`. -/
def parseUnicodeEscape
    (cursor : Cursor) : Except Bytes (Bytes × Cursor) := do
  if cursor.rest.length < 4 then
    cursor.fail "truncated \\u escape"
  else
    let (codePoint, cursor) ← parseHex 4 0 cursor
    -- A high surrogate takes the next escape with it, whatever that one holds.
    if 0xd800 ≤ codePoint && codePoint ≤ 0xdbff && 6 ≤ cursor.rest.length &&
        (bytes "\\u").isPrefixOf cursor.rest then
      let (low, cursor) ← parseHex 4 0 (cursor.skip 2)
      let high : UInt32 := (codePoint - 0xd800) <<< 10
      let scalar : UInt32 := 0x10000 + high + (low - 0xdc00)
      .ok (encodeEscape scalar, cursor)
    else
      .ok (encodeEscape codePoint, cursor)

/-- The one-byte escapes. -/
def simpleEscape (escape : UInt8) : Option UInt8 :=
  if escape = 0x22 then some 0x22
  else if escape = 0x5c then some 0x5c
  else if escape = 0x2f then some 0x2f
  else if escape = 0x62 then some 0x08
  else if escape = 0x66 then some 0x0c
  else if escape = 0x6e then some 0x0a
  else if escape = 0x72 then some 0x0d
  else if escape = 0x74 then some 0x09
  else none

/-- The loop of `Parser::parse_string_body`, after the opening quote. -/
def parseStringBody :
    Nat → Bytes → Cursor → Except Bytes (Bytes × Cursor)
  | 0, _, cursor => cursor.fail "unterminated string"
  | rounds + 1, out, cursor =>
    match cursor.rest with
    | [] => cursor.fail "unterminated string"
    | byte :: rest =>
      let next := cursor.skip 1
      if byte = 0x22 then
        .ok (out, next)
      else if byte ≠ 0x5c then
        parseStringBody rounds (out ++ [byte]) next
      else
        match rest with
        | [] => next.fail "unterminated escape"
        | escape :: _ =>
          let body := next.skip 1
          match simpleEscape escape with
          | some plain =>
            parseStringBody rounds (out ++ [plain]) body
          | none =>
            if escape = 0x75 then do
              let (encoded, after) ← parseUnicodeEscape body
              parseStringBody rounds (out ++ encoded) after
            else
              body.fail "unsupported escape"

/-- `Parser::parse_string_body`. -/
def parseString
    (cursor : Cursor) : Except Bytes (Bytes × Cursor) := do
  let opened ← expect cursor 0x22
  parseStringBody (opened.rest.length + 1) [] opened

/-- A decimal digit. -/
def isDigit (byte : UInt8) : Bool :=
  0x30 ≤ byte && byte ≤ 0x39

/-- `strtoll` in base ten, saturated to 64 bits. -/
def strtoll (literal : Bytes) : Int :=
  let negative := literal.head? = some 0x2d
  let unsigned :=
    if literal.head? = some 0x2d ∨ literal.head? = some 0x2b then
      literal.drop 1
    else literal
  let magnitude : Nat :=
    (unsigned.takeWhile isDigit).foldl
      (fun value digit => value * 10 + (digit.toNat - 0x30)) 0
  let value : Int := if negative then -(magnitude : Int) else magnitude
  max (-(2 ^ 63)) (min value (2 ^ 63 - 1))

/-- The bytes `Parser::parse_number` takes after a leading sign. -/
def isNumberByte (byte : UInt8) : Bool :=
  isDigit byte || byte = 0x2e || byte = 0x65 || byte = 0x45 ||
    byte = 0x2b || byte = 0x2d

/-- `Parser::parse_number`. -/
def parseNumber (cursor : Cursor) : PromptJson × Cursor :=
  let sign := if cursor.rest.head? = some 0x2d then 1 else 0
  let body := (cursor.rest.drop sign).takeWhile isNumberByte
  let literal := cursor.rest.take (sign + body.length)
  let isReal :=
    body.any fun byte => byte = 0x2e || byte = 0x65 || byte = 0x45
  (if isReal then .real literal else .int (strtoll literal),
    cursor.skip (sign + body.length))

/-- `Parser::parse_literal`. -/
def parseLiteral
    (cursor : Cursor) : Except Bytes (PromptJson × Cursor) :=
  if (bytes "true").isPrefixOf cursor.rest then
    .ok (.bool true, cursor.skip 4)
  else if (bytes "false").isPrefixOf cursor.rest then
    .ok (.bool false, cursor.skip 5)
  else if (bytes "null").isPrefixOf cursor.rest then
    .ok (.null, cursor.skip 4)
  else
    cursor.fail "invalid literal"

mutual

/-- `Parser::parse_value`, with `depth` calls allowed. -/
def parseValue :
    Nat → Cursor → Except Bytes (PromptJson × Cursor)
  | 0, cursor => cursor.fail "unexpected end of input"
  | depth + 1, start => do
      let cursor := skipWhitespace start
      match cursor.rest with
      | [] => cursor.fail "unexpected end of input"
      | byte :: _ =>
        if byte = 0x7b then
          let opened := skipWhitespace (cursor.skip 1)
          if opened.rest.head? = some 0x7d then
            .ok (.object [], opened.skip 1)
          else
            let (members, closed) ← parseMembers depth [] opened
            .ok (.object members, closed)
        else if byte = 0x5b then
          let opened := skipWhitespace (cursor.skip 1)
          if opened.rest.head? = some 0x5d then
            .ok (.array [], opened.skip 1)
          else
            let (elements, closed) ← parseElements depth [] opened
            .ok (.array elements, closed)
        else if byte = 0x22 then
          let (text, after) ← parseString cursor
          .ok (.string text, after)
        else if byte = 0x74 || byte = 0x66 || byte = 0x6e then
          parseLiteral cursor
        else if byte = 0x2d || isDigit byte then
          .ok (parseNumber cursor)
        else
          cursor.fail "unexpected character"

/-- The member loop of `Parser::parse_object`. -/
def parseMembers :
    Nat → List (Bytes × PromptJson) → Cursor →
      Except Bytes (List (Bytes × PromptJson) × Cursor)
  | 0, _, cursor => cursor.fail "unterminated object"
  | depth + 1, members, start => do
      let cursor := skipWhitespace start
      if cursor.rest.head? ≠ some 0x22 then
        cursor.fail "expected object key"
      else
        let (key, named) ← parseString cursor
        let valued ← expect (skipWhitespace named) 0x3a
        let (value, after) ← parseValue depth valued
        let next := skipWhitespace after
        match next.rest with
        | [] => next.fail "unterminated object"
        | byte :: _ =>
          if byte = 0x2c then
            parseMembers depth (members ++ [(key, value)]) (next.skip 1)
          else if byte = 0x7d then
            .ok (members ++ [(key, value)], next.skip 1)
          else
            next.fail "expected ',' or '\x7d' in object"

/-- The element loop of `Parser::parse_array`. -/
def parseElements :
    Nat → List PromptJson → Cursor →
      Except Bytes (List PromptJson × Cursor)
  | 0, _, cursor => cursor.fail "unterminated array"
  | depth + 1, elements, cursor => do
      let (element, after) ← parseValue depth cursor
      let next := skipWhitespace after
      match next.rest with
      | [] => next.fail "unterminated array"
      | byte :: _ =>
        if byte = 0x2c then
          parseElements depth (elements ++ [element]) (next.skip 1)
        else if byte = 0x5d then
          .ok (elements ++ [element], next.skip 1)
        else
          next.fail "expected ',' or ']' in array"

end

/--
`PromptJson::parse`.  Two nested calls read at least one byte between them, so
the calls allowed here are never used up.
-/
def parse (input : Bytes) : Except Bytes PromptJson := do
  let (value, after) ←
    parseValue (2 * input.length + 2) (skipWhitespace { rest := input })
  let ended := skipWhitespace after
  if ended.rest.isEmpty then
    .ok value
  else
    ended.fail "trailing characters after document"

/-- `PromptJson::parse_object`: the members of an object. -/
def parseObject (input : Bytes) : Except Bytes (List (Bytes × PromptJson)) := do
  match ← parse input with
  | .object members => .ok members
  | _ => .error (bytes "PromptJson: expected a JSON object")

/-- `PromptJson::find`. -/
def find
    (value : PromptJson)
    (key : Bytes) : Option PromptJson :=
  match value with
  | .object members => members.lookup key
  | _ => none

end PromptJson

end Aeon.Text
