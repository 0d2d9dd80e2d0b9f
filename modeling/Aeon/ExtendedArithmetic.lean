import Mathlib.Algebra.BigOperators.Group.List.Basic
import Mathlib.Algebra.Order.Field.Basic
import Mathlib.Data.Sign.Defs
import Mathlib.Order.WithBot

namespace Aeon

/-!
# Exact arithmetic with infinities and a not-a-number

The values of a floating-point type without its rounding: the finite values of an
ordered field, the two infinities, and one value that every operation passes on and no
comparison holds of.
-/

/-- A finite value, an infinity or not-a-number. -/
inductive Extended (K : Type) where
  | nan
  | negInf
  | finite (value : K)
  | posInf
  deriving DecidableEq

namespace Extended

variable {K : Type}

/-- `isfinite`. -/
def isFinite : Extended K → Bool
  | .finite _ => true
  | _ => false

/-- The infinity of a sign; none has the sign 0. -/
def infinity : SignType → Extended K
  | .zero => .nan
  | .neg => .negInf
  | .pos => .posInf

theorem negInf_ne_nan : (negInf : Extended K) ≠ nan :=
  nofun

section Order

variable [LinearOrder K]

/-- `<`, which does not hold of not-a-number. -/
def lt : Extended K → Extended K → Bool
  | .negInf, .finite _ => true
  | .negInf, .posInf => true
  | .finite _, .posInf => true
  | .finite one, .finite other => decide (one < other)
  | _, _ => false

/-- `<=`, which does not hold of not-a-number. -/
def le (one other : Extended K) : Bool :=
  lt one other || (one ≠ .nan && one = other)

/-- Where a value that is a number stands among the others. -/
def key : Extended K → WithBot (WithTop K)
  | .nan => ⊥
  | .negInf => ⊥
  | .finite value => ((value : WithTop K) : WithBot (WithTop K))
  | .posInf => ((⊤ : WithTop K) : WithBot (WithTop K))

/-- Numbers compare as their keys. -/
theorem lt_iff_key
    {one other : Extended K}
    (oneNumber : one ≠ .nan)
    (otherNumber : other ≠ .nan) :
    one.lt other = true ↔ one.key < other.key := by
  cases one with
  | nan => exact absurd rfl oneNumber
  | negInf => cases other <;> simp [lt, key] at otherNumber ⊢
  | finite value =>
    cases other with
    | nan => exact absurd rfl otherNumber
    | negInf => simp [lt, key]
    | finite value' => simp [lt, key]
    | posInf =>
      exact iff_of_true rfl (WithBot.coe_lt_coe.mpr (WithTop.coe_lt_top value))
  | posInf => cases other <;> simp [lt, key] at otherNumber ⊢

theorem key_inj
    {one other : Extended K}
    (oneNumber : one ≠ .nan)
    (otherNumber : other ≠ .nan) :
    one.key = other.key ↔ one = other := by
  cases one with
  | nan => exact absurd rfl oneNumber
  | negInf => cases other <;> simp [key] at otherNumber ⊢
  | finite value => cases other <;> simp [key] at otherNumber ⊢
  | posInf => cases other <;> simp [key] at otherNumber ⊢

/-- Nothing is less than NaN. -/
@[simp]
theorem lt_nan (one : Extended K) : one.lt .nan = false := by
  cases one <;> rfl

@[simp]
theorem le_nan (one : Extended K) : one.le .nan = false := by
  cases one <;> rfl

@[simp]
theorem lt_finite (one other : K) :
    (finite one).lt (finite other) = decide (one < other) :=
  rfl

@[simp]
theorem le_finite (one other : K) :
    (finite one).le (finite other) = decide (one ≤ other) := by
  simp [le, lt, le_iff_lt_or_eq]

end Order

section Arithmetic

variable [Field K] [LinearOrder K]

/-- The sign of a value. -/
def sign : Extended K → SignType
  | .nan => 0
  | .negInf => -1
  | .finite value => SignType.sign value
  | .posInf => 1

/-- `+`. -/
def add : Extended K → Extended K → Extended K
  | .nan, _ => .nan
  | _, .nan => .nan
  | .finite one, .finite other => .finite (one + other)
  | .finite _, other => other
  | one, .finite _ => one
  | one, other => if one = other then one else .nan

/-- `-`. -/
def sub (one : Extended K) : Extended K → Extended K
  | .nan => .nan
  | .negInf => one.add .posInf
  | .finite other => one.add (.finite (-other))
  | .posInf => one.add .negInf

/-- `*`. -/
def mul : Extended K → Extended K → Extended K
  | .nan, _ => .nan
  | _, .nan => .nan
  | .finite one, .finite other => .finite (one * other)
  | one, other => infinity (one.sign * other.sign)

/-- `/`, where a zero divisor is the positive zero. -/
def div : Extended K → Extended K → Extended K
  | .nan, _ => .nan
  | _, .nan => .nan
  | .finite one, .finite other =>
    if other = 0 then infinity (SignType.sign one) else .finite (one / other)
  | .finite _, _ => .finite 0
  | one, .finite other =>
    if other = 0 then one else infinity (one.sign * SignType.sign other)
  | _, _ => .nan

/-- A running sum. -/
def sum (start : Extended K) (terms : List (Extended K)) : Extended K :=
  terms.foldl add start

@[simp]
theorem add_nan (one : Extended K) : one.add .nan = .nan := by
  cases one <;> rfl

@[simp]
theorem finite_add (one other : K) :
    (finite one).add (finite other) = .finite (one + other) := rfl

@[simp]
theorem finite_mul (one other : K) :
    (finite one).mul (finite other) = .finite (one * other) := rfl

@[simp]
theorem div_nan (one : Extended K) : one.div .nan = .nan := by
  cases one <;> rfl

@[simp]
theorem mul_nan (one : Extended K) : one.mul .nan = .nan := by
  cases one <;> rfl

/-- A positive factor keeps the infinities. -/
theorem mul_positive
    [IsStrictOrderedRing K]
    {factor : K}
    (positive : 0 < factor)
    (value : Extended K) :
    value.mul (finite factor) =
      match value with
      | .nan => .nan
      | .negInf => .negInf
      | .finite value => .finite (value * factor)
      | .posInf => .posInf := by
  cases value with
  | nan => rfl
  | negInf => simp [mul, sign, infinity, sign_pos positive]
  | finite value => rfl
  | posInf => simp [mul, sign, infinity, sign_pos positive]

/-- A positive factor keeps the order. -/
theorem lt_mul_positive
    [IsStrictOrderedRing K]
    {factor : K}
    (positive : 0 < factor)
    (one other : Extended K) :
    (one.mul (finite factor)).lt (other.mul (finite factor)) = one.lt other := by
  rw [mul_positive positive, mul_positive positive]
  cases one <;> cases other <;> simp [lt, positive]

theorem finite_div
    (one : K)
    {other : K}
    (nonzero : other ≠ 0) :
    (finite one).div (finite other) = .finite (one / other) :=
  if_neg nonzero

/-- A sum of finite terms is finite. -/
theorem sum_finite
    (start : K)
    (terms : List K) :
    sum (.finite start) (terms.map .finite) = .finite (start + terms.sum) := by
  induction terms generalizing start with
  | nil => simp [sum]
  | cons first rest ih =>
    rw [List.map_cons, sum, List.foldl_cons, ← sum, finite_add, ih,
      List.sum_cons, add_assoc]

/-- A sum does not recover from not-a-number. -/
theorem sum_nan (terms : List (Extended K)) : sum nan terms = .nan := by
  induction terms with
  | nil => rfl
  | cons first rest ih => exact ih

/-- A sum with NaN is NaN. -/
theorem sum_of_mem_nan
    {terms : List (Extended K)}
    (listed : nan ∈ terms)
    (start : Extended K) :
    sum start terms = .nan := by
  obtain ⟨front, back, rfl⟩ := List.append_of_mem listed
  rw [sum, List.foldl_append, List.foldl_cons, add_nan]
  exact sum_nan back

end Arithmetic

end Extended

end Aeon
