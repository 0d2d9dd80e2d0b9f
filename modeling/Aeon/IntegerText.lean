import Aeon.JsonNumbers

namespace Aeon.Json

/-!
# The decimal form of an integer

`std::to_string` writes an integer as a JSON number: no sign but a minus, and no
leading zero.  The digits stand for the integer again.
-/

/-- `std::to_string` of an integer. -/
def integerText (value : Int) : Bytes :=
  if value < 0 then 0x2d :: decimal value.natAbs else decimal value.natAbs

theorem bytes_ofList (chars : List Char) :
    bytes (String.ofList chars) = Utf8.encode chars := by
  simp [bytes, Utf8.encode, String.toUTF8, List.utf8Encode]

theorem encode_digitChar : ∀ digit < 10,
    String.utf8EncodeChar digit.digitChar = [UInt8.ofNat (0x30 + digit)] := by
  decide

/-- One more digit behind the others. -/
theorem decimal_step
    {value : Nat}
    (large : 10 ≤ value) :
    decimal value =
      decimal (value / 10) ++ [UInt8.ofNat (0x30 + value % 10)] := by
  have nonzero : value ≠ 0 := by omega
  have above : value / 10 ≠ 0 := by omega
  rw [decimal, if_neg nonzero, decimal, if_neg above,
    Nat.digits_of_two_le_of_pos (by decide) (by omega)]
  simp

theorem decimal_single : ∀ digit < 10,
    decimal digit = [UInt8.ofNat (0x30 + digit)] := by
  intro digit small
  unfold decimal
  split
  next zero =>
    rw [zero]
    rfl
  next nonzero =>
    rw [Nat.digits_of_lt 10 digit nonzero small]
    rfl

/-- Lean's decimal text is that of the source. -/
theorem bytes_natural (value : Nat) : bytes (toString value) = decimal value := by
  have shown : toString value = String.ofList (Nat.toDigits 10 value) :=
    Nat.repr_eq_ofList_toDigits
  rw [shown, bytes_ofList]
  induction value using Nat.strongRecOn with
  | ind value ih =>
    rw [Nat.toDigits_eq_if (by decide)]
    split
    next small =>
      rw [decimal_single value small]
      simp [encode_digitChar value small]
    next large =>
      have large : 10 ≤ value := Nat.le_of_not_lt large
      rw [decimal_step large, Utf8.encode_append,
        ih (value / 10) (Nat.div_lt_self (by omega) (by decide))
          Nat.repr_eq_ofList_toDigits]
      simp [encode_digitChar _ (Nat.mod_lt value (by decide))]

/-- And so is that of an integer. -/
theorem bytes_integer (value : Int) : bytes (toString value) = integerText value := by
  have shown :
      toString value =
        if 0 ≤ value then toString value.toNat
        else "-" ++ toString (-value).toNat :=
    Int.repr_eq_if
  rw [shown, integerText]
  split
  next positive =>
    rw [if_neg (by omega), bytes_natural]
    congr 1
    omega
  next negative =>
    rw [if_pos (by omega)]
    have behind : bytes ("-" ++ toString (-value).toNat) =
        0x2d :: bytes (toString (-value).toNat) := by
      simp [bytes, String.toUTF8]
      rfl
    rw [behind, bytes_natural]
    congr 2
    omega

theorem decimal_run (value : Nat) : Digits (decimal value) := by
  obtain ⟨first, rest, shape, -⟩ := decimal_head value
  exact ⟨decimal_digits value, by simp [shape]⟩

/-- A decimal has no leading zero. -/
theorem decimal_whole (value : Nat) : WholePart (decimal value) := by
  obtain ⟨first, rest, shape, zero⟩ := decimal_head value
  by_cases starts : first = 0x30
  · rw [shape, starts, zero starts]
    exact .zero
  · refine .digits (decimal_run value) ?_
    rw [shape]
    simpa using starts

/-- The text of an integer is a JSON number. -/
theorem integerText_number (value : Int) : NumberText (integerText value) := by
  unfold integerText
  have parts {sign : Bytes} (signs : sign = [] ∨ sign = [0x2d]) :=
    NumberText.parts signs (decimal_whole value.natAbs) .absent .absent
  split
  · simpa using parts (Or.inr rfl)
  · simpa using parts (Or.inl rfl)

/-! ## Integer literals -/

/-- A whole part, with or without a minus in front of it. -/
inductive IntegerLiteral : Bytes → Int → Prop where
  | positive
      {digits : Bytes}
      (isWhole : WholePart digits) :
      IntegerLiteral digits (digitsValue digits)
  | negative
      {digits : Bytes}
      (isWhole : WholePart digits) :
      IntegerLiteral (0x2d :: digits) (-(digitsValue digits : Int))

theorem WholePart.run
    {digits : Bytes}
    (isWhole : WholePart digits) :
    Digits digits := by
  cases isWhole with
  | zero => exact ⟨by decide, by decide⟩
  | digits run => exact run

theorem Digits.unsigned
    {digits : Bytes}
    (run : Digits digits) :
    digits.head? ≠ some 0x2d ∧ digits.head? ≠ some 0x2b := by
  constructor <;>
    · intro sign
      exact absurd (run.all _ (List.mem_of_mem_head? sign)) (by decide)

/-- On digits alone both readings agree. -/
theorem decimalValue_digits
    {digits : Bytes}
    (run : Digits digits) :
    decimalValue digits = digitsValue digits := by
  have taken : digits.takeWhile isDigit = digits :=
    List.takeWhile_eq_self_iff.mpr run.all
  have dropped : digits.dropWhile isDigit = [] :=
    List.dropWhile_eq_nil_iff.mpr run.all
  simp [decimalValue, run.unsigned.1, taken, dropped, digitsValue]

theorem IntegerLiteral.decimalValue
    {literal : Bytes}
    {value : Int}
    (isInteger : IntegerLiteral literal value) :
    Json.decimalValue literal = value := by
  cases isInteger with
  | positive isWhole =>
    rw [decimalValue_digits isWhole.run]
    exact (Int.cast_natCast _).symm
  | @negative digits isWhole =>
    have unsigned := isWhole.run.unsigned.1
    have negated : Json.decimalValue (0x2d :: digits) = -Json.decimalValue digits := by
      simp [Json.decimalValue, unsigned]
    rw [negated, decimalValue_digits isWhole.run]
    push_cast
    rfl

/-- The text of an integer is a literal of it. -/
theorem integerText_literal (value : Int) :
    IntegerLiteral (integerText value) value := by
  have magnitude := digitsValue_decimal value.natAbs
  have isWhole := decimal_whole value.natAbs
  unfold integerText
  split
  · have literal := IntegerLiteral.negative isWhole
    rwa [magnitude, show -((value.natAbs : Int)) = value by omega] at literal
  · have literal := IntegerLiteral.positive isWhole
    rwa [magnitude, show (value.natAbs : Int) = value by omega] at literal

end Aeon.Json
