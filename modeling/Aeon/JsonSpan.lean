import Aeon.JsonReading

namespace Aeon.JsonSpan

open Json (Cursor)

/-!
# Raw members

The scanner that cuts a top-level member's source text out of a request body.  It
runs beside the JSON reader, over the same bytes, with its own idea of where a
string, a nested value and a scalar end and of what a key literal spells.
-/

/-- `json_space`. -/
def jsonSpace (byte : UInt8) : Bool :=
  byte = 0x20 || byte = 0x0a || byte = 0x0d || byte = 0x09

/-! ## Keys -/

/-- The `hex` of `decode_json_string`; anything else counts as zero. -/
def hex (byte : UInt8) : Nat :=
  if 0x30 ≤ byte && byte ≤ 0x39 then byte.toNat - 0x30
  else if 0x61 ≤ byte && byte ≤ 0x66 then byte.toNat - 0x61 + 10
  else if 0x41 ≤ byte && byte ≤ 0x46 then byte.toNat - 0x41 + 10
  else 0

/-- The code unit of four digits. -/
def codeUnit (first second third fourth : UInt8) : Nat :=
  hex first <<< 12 ||| hex second <<< 8 ||| hex third <<< 4 ||| hex fourth

/-- The `append_utf8` of `decode_json_string`: what it appends. -/
def appendUtf8 (code : Nat) : Bytes :=
  if code ≤ 0x7f then
    [UInt8.ofNat code]
  else if code ≤ 0x7ff then
    [UInt8.ofNat (0xc0 ||| code >>> 6), UInt8.ofNat (0x80 ||| code &&& 0x3f)]
  else
    -- A code point of four bytes is written in three, its lead byte cut off.
    [UInt8.ofNat (0xe0 ||| code >>> 12),
      UInt8.ofNat (0x80 ||| code >>> 6 &&& 0x3f),
      UInt8.ofNat (0x80 ||| code &&& 0x3f)]

/-- The one-byte cases of the escape switch. -/
def unescape (escape : UInt8) : Option UInt8 :=
  if escape = 0x22 then some 0x22
  else if escape = 0x5c then some 0x5c
  else if escape = 0x2f then some 0x2f
  else if escape = 0x62 then some 0x08
  else if escape = 0x66 then some 0x0c
  else if escape = 0x6e then some 0x0a
  else if escape = 0x72 then some 0x0d
  else if escape = 0x74 then some 0x09
  else none

/--
The `u` case of the escape switch, from the byte behind the mark on: what it appends
and the bytes it leaves.
-/
def unescapeUnit (rest : Bytes) : Bytes × Bytes :=
  match rest with
  | first :: second :: third :: fourth :: behind =>
    let code := codeUnit first second third fourth
    match behind with
    | slash :: mark :: fifth :: sixth :: seventh :: eighth :: further =>
      let low := codeUnit fifth sixth seventh eighth
      if (0xd800 ≤ code ∧ code ≤ 0xdbff) ∧ (slash = 0x5c ∧ mark = 0x75) ∧
          (0xdc00 ≤ low ∧ low ≤ 0xdfff) then
        (appendUtf8 (0x10000 + (code - 0xd800) <<< 10 + (low - 0xdc00)),
          further)
      else
        (appendUtf8 code, behind)
    | _ => (appendUtf8 code, behind)
  | _ => ([], rest)

/-- The loop of `decode_json_string`, with `rounds` bytes or escapes allowed. -/
def decodeBody : Nat → Bytes → Bytes
  | 0, _ => []
  | _ + 1, [] => []
  | rounds + 1, byte :: rest =>
    if byte ≠ 0x5c then
      byte :: decodeBody rounds rest
    else
      match rest with
      | [] => []
      | escape :: behind =>
        match unescape escape with
        | some plain => plain :: decodeBody rounds behind
        | none =>
          if escape = 0x75 then
            (unescapeUnit behind).1 ++
              decodeBody rounds (unescapeUnit behind).2
          else
            decodeBody rounds behind

/-- `decode_json_string`.  Every round takes a byte, so the rounds are enough. -/
def decodeJsonString (literal : Bytes) : Bytes :=
  if literal.length < 2 ∨ literal.head? ≠ some 0x22 then []
  else decodeBody literal.length (literal.drop 1).dropLast

/-! ## Values -/

/--
The bytes in front of the closing quote.  A backslash takes the byte behind it
along, also where there is none.
-/
def stringSpan : Bytes → Nat
  | [] => 0
  | byte :: rest =>
    if byte = 0x22 then 0
    else if byte = 0x5c then
      match rest with
      | [] => 2
      | _ :: behind => 2 + stringSpan behind
    else 1 + stringSpan rest

/-- The nested loop of `skip_value`: the bytes it passes over. -/
def nestedSpan : Int → Bool → Bytes → Nat
  | _, _, [] => 0
  | depth, true, byte :: rest =>
    if byte = 0x5c then
      match rest with
      | [] => 2
      | _ :: behind => 2 + nestedSpan depth true behind
    else
      1 + nestedSpan depth (byte ≠ 0x22) rest
  | depth, false, byte :: rest =>
    if byte = 0x22 then
      1 + nestedSpan depth true rest
    else if byte = 0x7b ∨ byte = 0x5b then
      1 + nestedSpan (depth + 1) false rest
    else if byte = 0x7d ∨ byte = 0x5d then
      if depth - 1 = 0 then 1
      else 1 + nestedSpan (depth - 1) false rest
    else
      1 + nestedSpan depth false rest

/-- Whether the scalar loop of `skip_value` goes on over a byte. -/
def scalarByte (byte : UInt8) : Bool :=
  !(byte = 0x2c || byte = 0x7d || byte = 0x5d || jsonSpace byte)

/-- `skip_value`: the bytes from the value's first byte to its end. -/
def skipValue (rest : Bytes) : Nat :=
  match rest with
  | [] => 0
  | first :: others =>
    if first = 0x22 then
      let closing := 1 + stringSpan others
      if closing < rest.length then closing + 1 else closing
    else if first = 0x7b ∨ first = 0x5b then
      nestedSpan 0 false rest
    else
      (rest.takeWhile scalarByte).length

/-! ## Members -/

/-- The cursor past the blanks in front of it. -/
def skipSpace (cursor : Cursor) : Cursor :=
  cursor.skip (cursor.rest.takeWhile jsonSpace).length

/--
The loop of `raw_member`, with `rounds` members or commas allowed.  The result is
where the member's value starts and its bytes.
-/
def rawMembers
    (key : Bytes) :
    Nat → Cursor → Option (Nat × Bytes)
  | 0, _ => none
  | rounds + 1, start =>
    let cursor := skipSpace start
    match cursor.rest with
    | [] => none
    | byte :: behind =>
      if byte = 0x7d then none
      else if byte = 0x2c then rawMembers key rounds (cursor.skip 1)
      else if byte ≠ 0x22 then none
      else
        let closing := stringSpan behind
        if behind.length ≤ closing then none
        else
          let literal := cursor.rest.take (closing + 2)
          let colon := skipSpace (cursor.skip (closing + 2))
          if colon.rest.head? ≠ some 0x3a then none
          else
            let value := skipSpace (colon.skip 1)
            let length := skipValue value.rest
            if value.rest.length < length then none
            else if decodeJsonString literal = key then
              some (value.position, value.rest.take length)
            else
              rawMembers key rounds (value.skip length)

/-- `raw_member`.  Every round takes a byte, so the rounds are enough. -/
def rawMember
    (body : Bytes)
    (key : Bytes) : Option (Nat × Bytes) :=
  let opened := skipSpace { rest := body }
  if opened.rest.head? ≠ some 0x7b then none
  else rawMembers key (body.length + 1) (opened.skip 1)

end Aeon.JsonSpan
