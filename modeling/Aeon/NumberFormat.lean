import Aeon.Binary64
import Aeon.IntegerText

namespace Aeon.Json

/-!
# Six significant digits

`printf` writes a finite number under `%.6g` with six significant digits, without
trailing zeros, and with an exponent where the number is very small or has more than six
digits in front of the point.  The text is always a number of JSON.
-/

/-- The six digits of a positive number, as an integer, and its decimal exponent. -/
def significant (magnitude : ℚ) : Nat × Int :=
  let exponent := Int.log 10 magnitude
  let digits := Binary64.roundHalfEven (magnitude / 10 ^ (exponent - 5))
  if digits = 10 ^ 6 then (10 ^ 5, exponent + 1)
  else (digits.toNat, exponent)

/-- Digits without the zeros at their end. -/
def trimmed (digits : Bytes) : Bytes :=
  (digits.reverse.dropWhile fun digit => digit = 0x30).reverse

/-- The point and the digits behind it, where there are any. -/
def fractionText (digits : Bytes) : Bytes :=
  if trimmed digits = [] then [] else 0x2e :: trimmed digits

/-- An exponent of at least two digits. -/
def exponentDigits (exponent : Nat) : Bytes :=
  if exponent < 10 then 0x30 :: decimal exponent else decimal exponent

/-- The digits with the point where the exponent puts it. -/
def fixedText
    (digits : Bytes)
    (exponent : Int) : Bytes :=
  if 0 ≤ exponent then
    digits.take (exponent.toNat + 1) ++ fractionText (digits.drop (exponent.toNat + 1))
  else
    0x30 :: fractionText (List.replicate ((-exponent).toNat - 1) 0x30 ++ digits)

/-- The digits with one of them in front of the point, and the exponent. -/
def exponentText
    (digits : Bytes)
    (exponent : Int) : Bytes :=
  digits.take 1 ++
    (fractionText (digits.drop 1) ++
      0x65 :: (if exponent < 0 then 0x2d else 0x2b) :: exponentDigits exponent.natAbs)

/-- `%.6g` of a finite number. -/
def generalText (value : ℚ) : Bytes :=
  if value = 0 then [0x30]
  else
    let (digits, exponent) := significant |value|
    (if value < 0 then [0x2d] else []) ++
      if -4 ≤ exponent ∧ exponent < 6 then fixedText (decimal digits) exponent
      else exponentText (decimal digits) exponent

/-- A double; the zero of the finite ones has no sign. -/
inductive Double where
  | finite (value : ℚ)
  | negativeZero
  | infinite (negative : Bool)
  | nan (negative : Bool)
  deriving DecidableEq

/-- `%.6g`; what is not finite is written as a word. -/
def doubleText : Double → Bytes
  | .finite value => generalText value
  | .negativeZero => bytes "-0"
  | .infinite negative => if negative then bytes "-inf" else bytes "inf"
  | .nan negative => if negative then bytes "-nan" else bytes "nan"

/-- A number that JSON can write. -/
def Double.IsFinite : Double → Prop
  | .finite _ => True
  | .negativeZero => True
  | .infinite _ => False
  | .nan _ => False

/-! ## The text is a number -/

theorem trimmed_digits
    {digits : Bytes}
    (all : ∀ byte ∈ digits, isDigit byte = true) :
    ∀ byte ∈ trimmed digits, isDigit byte = true := by
  intro byte isByte
  rw [trimmed, List.mem_reverse] at isByte
  exact all byte (List.mem_reverse.mp ((List.dropWhile_sublist _).subset isByte))

theorem fractionText_part
    {digits : Bytes}
    (all : ∀ byte ∈ digits, isDigit byte = true) :
    FractionPart (fractionText digits) := by
  unfold fractionText
  split
  · exact .absent
  · next nonempty => exact .digits ⟨trimmed_digits all, nonempty⟩

/-- The first digits of an integer are one, too. -/
theorem whole_take (value count : Nat) :
    WholePart ((decimal value).take (count + 1)) := by
  obtain ⟨first, rest, shape, zero⟩ := decimal_head value
  have run := decimal_run value
  rw [shape] at run ⊢
  rw [List.take_succ_cons]
  by_cases starts : first = 0x30
  · rw [zero starts, starts, List.take_nil]
    exact .zero
  · refine .digits ⟨fun byte isByte => run.all byte ?_, by simp⟩ (by simpa using starts)
    exact ((List.take_sublist count rest).cons_cons first).subset isByte

theorem drop_digits (value count : Nat) :
    ∀ byte ∈ (decimal value).drop count, isDigit byte = true :=
  fun byte isByte => (decimal_run value).all byte (List.mem_of_mem_drop isByte)

theorem exponentDigits_run (exponent : Nat) : Digits (exponentDigits exponent) := by
  have run := decimal_run exponent
  unfold exponentDigits
  split
  · exact ⟨List.forall_mem_cons.mpr ⟨by decide, run.all⟩, by simp⟩
  · exact run

theorem fixedText_parts (digits : Nat) (exponent : Int) :
    ∃ whole fraction,
      fixedText (decimal digits) exponent = whole ++ fraction ∧ WholePart whole ∧
        FractionPart fraction := by
  unfold fixedText
  split
  · exact ⟨_, _, rfl, whole_take digits _, fractionText_part (drop_digits digits _)⟩
  · refine ⟨[0x30], _, rfl, .zero, fractionText_part ?_⟩
    rw [List.forall_mem_append]
    refine ⟨fun byte isByte => ?_, (decimal_run digits).all⟩
    rw [List.eq_of_mem_replicate isByte]
    decide

theorem exponentText_parts (digits : Nat) (exponent : Int) :
    ∃ whole fraction behind,
      exponentText (decimal digits) exponent = whole ++ (fraction ++ behind) ∧
        WholePart whole ∧ FractionPart fraction ∧ ExponentPart behind := by
  refine ⟨_, _, _, rfl, whole_take digits 0, fractionText_part (drop_digits digits 1), ?_⟩
  have run := exponentDigits_run exponent.natAbs
  split
  · exact @ExponentPart.digits 0x65 [0x2d] _ (Or.inl rfl) (Or.inr (Or.inr rfl)) run
  · exact @ExponentPart.digits 0x65 [0x2b] _ (Or.inl rfl) (Or.inr (Or.inl rfl)) run

/-- What `%.6g` writes is a number of JSON. -/
theorem generalText_number (value : ℚ) : NumberText (generalText value) := by
  unfold generalText
  split
  · exact @NumberText.parts [] [0x30] [] [] (Or.inl rfl) .zero .absent .absent
  · have signs : (if value < 0 then [0x2d] else []) = ([] : Bytes) ∨
        (if value < 0 then [0x2d] else []) = ([0x2d] : Bytes) := by
      split <;> simp
    simp only
    generalize (if value < 0 then [0x2d] else [] : Bytes) = sign at signs ⊢
    split
    · obtain ⟨whole, fraction, shape, isWhole, isFraction⟩ :=
        fixedText_parts (significant |value|).1 (significant |value|).2
      rw [shape]
      simpa using NumberText.parts signs isWhole isFraction .absent
    · obtain ⟨whole, fraction, behind, shape, isWhole, isFraction, isExponent⟩ :=
        exponentText_parts (significant |value|).1 (significant |value|).2
      rw [shape]
      exact .parts signs isWhole isFraction isExponent

theorem doubleText_number
    {value : Double}
    (isFinite : value.IsFinite) :
    NumberText (doubleText value) := by
  cases value with
  | finite value => exact generalText_number value
  | negativeZero =>
    exact @NumberText.parts [0x2d] [0x30] [] [] (Or.inr rfl) .zero .absent .absent
  | infinite => exact isFinite.elim
  | nan => exact isFinite.elim

example : generalText (1 / 100000) = bytes "1e-05" := by decide +kernel

end Aeon.Json
