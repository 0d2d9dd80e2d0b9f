import Mathlib.Data.List.Infix

namespace Aeon

/-!
# Byte strings and throwing functions

The program's strings are byte sequences: the tokenizer, the JSON codec and the
prompt template all work on bytes, and nothing promises that they are valid
UTF-8.  A byte string is a list of bytes here, and a literal of the source is its
UTF-8 encoding.  A function that throws returns an `Except`; three lemmas take a
chain of such calls apart.
-/

/-- The contents of a C++ `std::string`. -/
abbrev Bytes := List UInt8

/-- The bytes of a literal. -/
def bytes (literal : String) : Bytes :=
  literal.toUTF8.data.toList

/-- What is required of every byte of a text is decided byte by byte. -/
instance decidableEveryByte
    (text : Bytes)
    (holds : UInt8 → Prop)
    [DecidablePred holds] : Decidable (∀ byte ∈ text, holds byte) :=
  List.decidableBAll holds text

/-- What follows a returned value is run on it. -/
@[simp]
theorem ok_bind
    {Error First Second : Type}
    (value : First)
    (next : First → Except Error Second) :
    (Except.ok value >>= next) = next value :=
  rfl

@[simp]
theorem error_bind
    {Error First Second : Type}
    (error : Error)
    (next : First → Except Error Second) :
    (Except.error error >>= next) = .error error :=
  rfl

theorem bind_eq_ok
    {Error First Second : Type}
    {step : Except Error First}
    {next : First → Except Error Second}
    {result : Second} :
    (step >>= next) = .ok result ↔
      ∃ value, step = .ok value ∧ next value = .ok result := by
  cases step with
  | error error => simp
  | ok value => simp

namespace Bytes

/-- Every occurrence of `needle` from the left replaced, in `rounds` bytes. -/
def replaceFrom
    (needle value : Bytes) :
    Nat → Bytes → Bytes
  | 0, text => text
  | _ + 1, [] => []
  | rounds + 1, byte :: text =>
    if needle.isPrefixOf (byte :: text) then
      value ++
        replaceFrom needle value rounds ((byte :: text).drop needle.length)
    else
      byte :: replaceFrom needle value rounds text

/-- Replace every occurrence of `needle` by `value`, scanning past each value. -/
def replaceAll
    (text needle value : Bytes) : Bytes :=
  if needle.isEmpty then text
  else replaceFrom needle value text.length text

/-- The offset of the first occurrence of `needle` in `text`. -/
def find (needle : Bytes) : Bytes → Option Nat
  | [] => if needle.isEmpty then some 0 else none
  | byte :: text =>
    if needle.isPrefixOf (byte :: text) then some 0
    else (find needle text).map (· + 1)

/-- The pieces with `separator` between them. -/
def join
    (separator : Bytes) :
    List Bytes → Bytes
  | [] => []
  | [piece] => piece
  | piece :: pieces => piece ++ separator ++ join separator pieces

end Bytes

end Aeon
