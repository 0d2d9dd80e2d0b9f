import Aeon.JsonValue
import Aeon.Utf8
import Mathlib.Data.List.TakeWhile
import Mathlib.Data.Nat.Digits.Lemmas

namespace Aeon.Json

open List (append_assoc cons_append length_append length_cons length_nil
  mem_cons_of_mem mem_cons_self nil_append)

/-!
# Python's `json.dumps`, read back

The converter writes the tensor directory with `json.dumps(directory, indent=2)`:
ASCII only, everything else as `\u` escapes, one element a line.  The reader gives
back what was written, whatever the strings hold, as long as the integers are exact
in a double.
-/

/-- The values the converter dumps: a string is a list of scalar values. -/
inductive PythonValue where
  | int (value : Nat)
  | str (text : List Char)
  | list (elements : List PythonValue)
  | dict (members : List (List Char × PythonValue))

/-! ## Emission -/

/-- The decimal form of an integer. -/
def decimal (value : Nat) : Bytes :=
  if value = 0 then [0x30]
  else (Nat.digits 10 value).reverse.map fun digit => UInt8.ofNat (0x30 + digit)

/-- A lower-case hexadecimal digit. -/
def hexDigit (value : Nat) : UInt8 :=
  if value < 10 then UInt8.ofNat (0x30 + value)
  else UInt8.ofNat (0x61 + (value - 10))

/-- `'\\u{0:04x}'.format(unit)`. -/
def unicodeEscape (unit : Nat) : Bytes :=
  bytes "\\u" ++ [hexDigit (unit / 0x1000), hexDigit (unit / 0x100 % 0x10),
    hexDigit (unit / 0x10 % 0x10), hexDigit (unit % 0x10)]

/-- One character of `py_encode_basestring_ascii`. -/
def escapeChar (char : Char) : Bytes :=
  let value := char.toNat
  if value = 0x5c then [0x5c, 0x5c]
  else if value = 0x22 then [0x5c, 0x22]
  else if value = 0x08 then bytes "\\b"
  else if value = 0x0c then bytes "\\f"
  else if value = 0x0a then bytes "\\n"
  else if value = 0x0d then bytes "\\r"
  else if value = 0x09 then bytes "\\t"
  else if 0x20 ≤ value ∧ value ≤ 0x7e then [UInt8.ofNat value]
  else if value < 0x10000 then unicodeEscape value
  else
    -- A surrogate pair.
    unicodeEscape (0xd800 + (value - 0x10000) / 0x400) ++
      unicodeEscape (0xdc00 + (value - 0x10000) % 0x400)

/-- `py_encode_basestring_ascii`. -/
def encodeString (text : List Char) : Bytes :=
  [0x22] ++ text.flatMap escapeChar ++ [0x22]

/-- A line break and the indentation of a level. -/
def newline (level : Nat) : Bytes :=
  0x0a :: List.replicate (2 * level) 0x20

mutual

/-- `json.dumps(value, indent=2)` for a value at an indentation level. -/
def dumps : Nat → PythonValue → Bytes
  | _, .int value => decimal value
  | _, .str text => encodeString text
  | _, .list [] => bytes "[]"
  | level, .list (first :: rest) =>
    [0x5b] ++ newline (level + 1) ++ dumps (level + 1) first ++
      dumpElements (level + 1) rest ++ newline level ++ [0x5d]
  | _, .dict [] => [0x7b, 0x7d]
  | level, .dict ((key, first) :: rest) =>
    [0x7b] ++ newline (level + 1) ++ encodeString key ++ bytes ": " ++
      dumps (level + 1) first ++ dumpMembers (level + 1) rest ++
        newline level ++ [0x7d]

/-- The elements behind the first, each behind a comma on a line of its own. -/
def dumpElements : Nat → List PythonValue → Bytes
  | _, [] => []
  | level, first :: rest =>
    [0x2c] ++ newline level ++ dumps level first ++ dumpElements level rest

/-- The members behind the first. -/
def dumpMembers : Nat → List (List Char × PythonValue) → Bytes
  | _, [] => []
  | level, (key, first) :: rest =>
    [0x2c] ++ newline level ++ encodeString key ++ bytes ": " ++
      dumps level first ++ dumpMembers level rest

end

/-! ## What it stands for -/

mutual

/-- The value as the reader represents it. -/
def PythonValue.toJson : PythonValue → JsonValue
  | .int value => .number value
  | .str text => .string (Utf8.encode text)
  | .list elements => .array (elementsToJson elements)
  | .dict members => .object (membersToJson members)

def elementsToJson : List PythonValue → List JsonValue
  | [] => []
  | first :: rest => first.toJson :: elementsToJson rest

def membersToJson :
    List (List Char × PythonValue) → List (Bytes × JsonValue)
  | [] => []
  | (key, first) :: rest => (Utf8.encode key, first.toJson) :: membersToJson rest

end

mutual

/-- The integers are exact in a double, and no key stands twice in an object. -/
def PythonValue.Exact : PythonValue → Prop
  | .int value => value < 2 ^ 53
  | .str _ => True
  | .list elements => ElementsExact elements
  | .dict members => MembersExact members ∧ (members.map Prod.fst).Nodup

def ElementsExact : List PythonValue → Prop
  | [] => True
  | first :: rest => first.Exact ∧ ElementsExact rest

def MembersExact : List (List Char × PythonValue) → Prop
  | [] => True
  | (_, first) :: rest => first.Exact ∧ MembersExact rest

end

/-! ## Strings -/

theorem Cursor.skip_append
    (position : Nat)
    (front rest : Bytes) :
    (Cursor.mk position (front ++ rest)).skip front.length =
      ⟨position + front.length, rest⟩ := by
  simp [Cursor.skip]

@[simp] theorem Cursor.skip_one
    (position : Nat)
    (byte : UInt8)
    (rest : Bytes) :
    (Cursor.mk position (byte :: rest)).skip 1 = ⟨position + 1, rest⟩ := rfl

@[simp] theorem expect_cons
    (position : Nat)
    (byte : UInt8)
    (rest : Bytes) :
    expect ⟨position, byte :: rest⟩ byte = .ok ⟨position + 1, rest⟩ := by
  simp [expect]

theorem hexValue_hexDigit : ∀ digit < 16, hexValue (hexDigit digit) = some digit := by
  decide

theorem codePointBytes_toNat (char : Char) :
    codePointBytes char.toNat = String.utf8EncodeChar char := by
  have valid : char.toNat < 0xd800 ∨
      (0xdfff < char.toNat ∧ char.toNat < 0x110000) := char.valid
  have value : char.val.toNat = char.toNat := rfl
  unfold codePointBytes String.utf8EncodeChar
  simp only [value, Nat.div_one]
  split
  · rfl
  · split
    · rw [Nat.mod_eq_of_lt (by omega : char.toNat / 64 < 0x20), Nat.add_comm 0xc0,
        Nat.add_comm 0x80]
    · split
      · rw [Nat.mod_eq_of_lt (by omega : char.toNat / 4096 < 0x10),
          Nat.add_comm 0xe0, Nat.add_comm 0x80, Nat.add_comm 0x80]
      · rw [Nat.mod_eq_of_lt (by omega : char.toNat / 262144 < 0x08),
          Nat.add_comm 0xf0, Nat.add_comm 0x80, Nat.add_comm 0x80,
          Nat.add_comm 0x80]

/-- A scalar value is no stray surrogate. -/
theorem unpaired_toNat (char : Char) :
    unpaired char.toNat = String.utf8EncodeChar char := by
  have valid : char.toNat < 0xd800 ∨
      (0xdfff < char.toNat ∧ char.toNat < 0x110000) := char.valid
  rw [unpaired, if_neg (by omega), codePointBytes_toNat]

theorem bytes_unicode : bytes "\\u" = [0x5c, 0x75] := by decide

section StringBody

variable (rounds position : Nat) (result rest : Bytes)

theorem parseStringBody_plain
    {value : UInt8}
    (printable : ¬ value < 0x20)
    (unquoted : value ≠ 0x22)
    (unescaped : value ≠ 0x5c) :
    parseStringBody (rounds + 1) result ⟨position, value :: rest⟩ =
      parseStringBody rounds (result ++ [value]) ⟨position + 1, rest⟩ := by
  simp only [parseStringBody, unquoted, if_false, printable, ne_eq, unescaped,
    not_false_eq_true, if_true, Cursor.skip_one]

theorem parseStringBody_simple
    {escaped plain : UInt8}
    (escape : simpleEscape escaped = some plain) :
    parseStringBody (rounds + 1) result ⟨position, 0x5c :: escaped :: rest⟩ =
      parseStringBody rounds (result ++ [plain]) ⟨position + 2, rest⟩ := by
  simp only [parseStringBody, escape]
  rfl

theorem parseStringBody_unicode
    {encoded : Bytes}
    {after : Cursor}
    (parsed : parseUnicodeEscape ⟨position + 2, rest⟩ = .ok (encoded, after)) :
    parseStringBody (rounds + 1) result ⟨position, 0x5c :: 0x75 :: rest⟩ =
      parseStringBody rounds (result ++ encoded) after := by
  have body : ((Cursor.mk position (0x5c :: 0x75 :: rest)).skip 1).skip 1 =
      ⟨position + 2, rest⟩ := rfl
  have unknown : simpleEscape 0x75 = none := by decide
  rw [parseStringBody]
  simp only [body, unknown, parsed, ok_bind]
  rfl

end StringBody

/-! ## Numbers -/

theorem isDigit_ofNat : ∀ digit < 10, isDigit (UInt8.ofNat (0x30 + digit)) = true := by
  decide

theorem toNat_digit : ∀ digit < 10,
    (UInt8.ofNat (0x30 + digit)).toNat - 0x30 = digit := by
  decide

theorem zero_digit : ∀ digit < 10, UInt8.ofNat (0x30 + digit) = 0x30 → digit = 0 := by
  decide

/-- A dumped integer is all digits. -/
theorem decimal_digits
    (value : Nat) :
    ∀ byte ∈ decimal value, isDigit byte = true := by
  unfold decimal
  split
  · simp [isDigit]
  · intro byte listed
    obtain ⟨digit, isDigit, rfl⟩ := List.mem_map.mp listed
    exact isDigit_ofNat digit
      (Nat.digits_lt_base (by decide) (List.mem_reverse.mp isDigit))

theorem digitsValue_decimal (value : Nat) : digitsValue (decimal value) = value := by
  unfold decimal
  split
  next zero =>
    subst zero
    rfl
  next =>
    have folded : ∀ digits : List Nat, (∀ digit ∈ digits, digit < 10) →
        digitsValue (digits.reverse.map fun digit => UInt8.ofNat (0x30 + digit)) =
          Nat.ofDigits 10 digits := by
      intro digits small
      unfold digitsValue
      rw [List.foldl_map, List.foldl_reverse]
      induction digits with
      | nil => rfl
      | cons digit digits ih =>
        have lower := ih fun other listed =>
          small other (mem_cons_of_mem digit listed)
        rw [List.foldr_cons, lower, toNat_digit digit (small digit mem_cons_self),
          Nat.ofDigits_cons]
        ring
    rw [folded _ fun digit listed => Nat.digits_lt_base (by decide) listed,
      Nat.ofDigits_digits]

/-- A dumped integer starts with a zero only if it is zero. -/
theorem decimal_head (value : Nat) :
    ∃ first rest, decimal value = first :: rest ∧
      (first = 0x30 → rest = []) := by
  unfold decimal
  split
  · exact ⟨0x30, [], rfl, fun _ => rfl⟩
  next nonzero =>
    have nonempty : Nat.digits 10 value ≠ [] :=
      Nat.digits_ne_nil_iff_ne_zero.mpr nonzero
    have shape := List.dropLast_append_getLast nonempty
    refine ⟨UInt8.ofNat (0x30 + (Nat.digits 10 value).getLast nonempty),
      ((Nat.digits 10 value).dropLast.reverse.map fun digit =>
        UInt8.ofNat (0x30 + digit)), ?_, fun zero => ?_⟩
    · conv_lhs => rw [← shape]
      simp
    · have small := Nat.digits_lt_base (by decide)
        (List.getLast_mem nonempty : _ ∈ Nat.digits 10 value)
      exact absurd (zero_digit _ small zero)
        (Nat.getLast_digit_ne_zero 10 nonzero)

/-- What may stand behind a number. -/
def Stops (rest : Bytes) : Prop :=
  ∀ byte, rest.head? = some byte → isDigit byte = false ∧ byte ≠ 0x2e ∧
    byte ≠ 0x65 ∧ byte ≠ 0x45

theorem decimalValue_decimal (value : Nat) :
    decimalValue (decimal value) = value := by
  have all := decimal_digits value
  have unsigned : (decimal value).head? ≠ some 0x2d := by
    intro sign
    have digit := all 0x2d (List.mem_of_mem_head? sign)
    exact absurd digit (by decide)
  have taken : (decimal value).takeWhile isDigit = decimal value :=
    List.takeWhile_eq_self_iff.mpr all
  have dropped : (decimal value).dropWhile isDigit = [] :=
    List.dropWhile_eq_nil_iff.mpr all
  have nothing : digitsValue [] = 0 := rfl
  simp [decimalValue, unsigned, taken, dropped, nothing, digitsValue_decimal]

/-! ## Blanks -/

/-- Blanks only. -/
def Blank (text : Bytes) : Prop :=
  ∀ byte ∈ text, isWhitespace byte = true

theorem blank_newline (level : Nat) : Blank (newline level) := by
  intro byte listed
  rcases List.mem_cons.mp listed with rfl | space
  · decide
  · rw [List.eq_of_mem_replicate space]
    decide

theorem blank_space : Blank [0x20] := by
  intro byte listed
  rw [List.mem_singleton.mp listed]
  decide

theorem skipWhitespace_blank
    {lead : Bytes}
    (position : Nat)
    (blank : Blank lead)
    {first : UInt8}
    (rest : Bytes)
    (starts : isWhitespace first = false) :
    skipWhitespace ⟨position, lead ++ first :: rest⟩ =
      ⟨position + lead.length, first :: rest⟩ := by
  have taken : (lead ++ first :: rest).takeWhile isWhitespace = lead := by
    rw [List.takeWhile_append_of_pos blank, List.takeWhile_cons_of_neg (by simp [starts]),
      List.append_nil]
  rw [skipWhitespace]
  simp only
  rw [taken, Cursor.skip_append]

@[simp] theorem skipWhitespace_cons
    (position : Nat)
    {first : UInt8}
    (rest : Bytes)
    (starts : isWhitespace first = false) :
    skipWhitespace ⟨position, first :: rest⟩ = ⟨position, first :: rest⟩ :=
  skipWhitespace_blank position (show Blank [] from nofun) rest starts

theorem bytes_colon : bytes ": " = [0x3a, 0x20] := by decide

/-- A comma, a line break and a closing bracket end a number. -/
theorem stops_cons
    {byte : UInt8}
    (rest : Bytes)
    (ends : isDigit byte = false ∧ byte ≠ 0x2e ∧ byte ≠ 0x65 ∧ byte ≠ 0x45) :
    Stops (byte :: rest) := by
  intro first head
  cases head
  exact ends

/-- Another key is not found behind a new member. -/
theorem lookup_append_of_ne
    {Value : Type}
    {values : List (Bytes × Value)}
    {key other : List Char}
    (value : Value)
    (absent : values.lookup (Utf8.encode other) = none)
    (different : other ≠ key) :
    (values ++ [(Utf8.encode key, value)]).lookup (Utf8.encode other) = none := by
  have apart : Utf8.encode other ≠ Utf8.encode key :=
    fun same => different (Utf8.encode_injective same)
  rw [List.lookup_append, absent]
  simp [List.lookup_cons, beq_eq_false_iff_ne.mpr apart]

theorem parseValue_bracket
    {cursor : Cursor}
    {position : Nat}
    {rest : Bytes}
    (starts : skipWhitespace cursor = ⟨position, 0x5b :: rest⟩)
    (depth : Nat) :
    parseValue (depth + 1) cursor =
      if (skipWhitespace ⟨position + 1, rest⟩).rest.head? = some 0x5d then
        .ok (.array [], (skipWhitespace ⟨position + 1, rest⟩).skip 1)
      else
        parseElements depth [] (skipWhitespace ⟨position + 1, rest⟩) >>=
          fun (elements, closed) => .ok (.array elements, closed) := by
  rw [parseValue, starts]
  rfl

theorem parseValue_brace
    {cursor : Cursor}
    {position : Nat}
    {rest : Bytes}
    (starts : skipWhitespace cursor = ⟨position, 0x7b :: rest⟩)
    (depth : Nat) :
    parseValue (depth + 1) cursor =
      if (skipWhitespace ⟨position + 1, rest⟩).rest.head? = some 0x7d then
        .ok (.object [], (skipWhitespace ⟨position + 1, rest⟩).skip 1)
      else
        parseMembers depth [] (skipWhitespace ⟨position + 1, rest⟩) >>=
          fun (members, closed) => .ok (.object members, closed) := by
  rw [parseValue, starts]
  rfl

end Aeon.Json
