import Aeon.Bytes
import Mathlib.Algebra.Group.Nat.Defs

namespace Aeon.LittleEndian

/-!
# Little-endian integers

An unsigned integer of a fixed width as its bytes, low byte first, and back.  This
module names nothing of the program.
-/

/-- The low `width` bytes of an integer. -/
def pack : Nat → Nat → Bytes
  | 0, _ => []
  | width + 1, value => UInt8.ofNat value :: pack width (value / 256)

/-- The integer that bytes stand for. -/
def unpack : Bytes → Nat
  | [] => 0
  | byte :: rest => byte.toNat + 256 * unpack rest

@[simp] theorem pack_length
    (width value : Nat) :
    (pack width value).length = width := by
  induction width generalizing value with
  | zero => rfl
  | succ width ih => simp [pack, ih]

/-- An integer that fits is read back. -/
theorem unpack_pack
    {width value : Nat}
    (fits : value < 256 ^ width) :
    unpack (pack width value) = value := by
  induction width generalizing value with
  | zero =>
    rw [Nat.pow_zero] at fits
    simp only [pack, unpack]
    omega
  | succ width ih =>
    have rest : value / 256 < 256 ^ width := by
      rw [Nat.pow_succ] at fits
      exact Nat.div_lt_of_lt_mul (Nat.mul_comm _ _ ▸ fits)
    rw [pack, unpack, ih rest, UInt8.toNat_ofNat']
    omega

/-- The integer of a width at an offset of a file. -/
def readAt
    (width : Nat)
    (file : Bytes)
    (offset : Nat) : Nat :=
  unpack ((file.drop offset).take width)

/-- A packed integer is found where it was put. -/
theorem readAt_pack
    {width value : Nat}
    (fits : value < 256 ^ width)
    (front back : Bytes) :
    readAt width (front ++ (pack width value ++ back)) front.length = value := by
  rw [readAt, List.drop_left, List.take_left' (pack_length width value),
    unpack_pack fits]

end Aeon.LittleEndian
