import Mathlib.Data.List.Basic

namespace Aeon.Rdna3

/-!
# The matrix unit

`wmma.hpp`: a wave of 32 lanes multiplies a 16 by 16 tile of activations with a 16 by 16
tile of weights.  The instruction is given by its documented lane map; what it computes
for one element of the output, from one row and one column of 16 values, is a parameter.
-/

/-- What the instruction does to one element of its accumulator. -/
structure MatrixUnit (Operand Accumulator : Type) where
  zero : Accumulator
  accumulate : List Operand → List Operand → Accumulator → Accumulator

/-- `wmma_lane_axis`. -/
def wmmaLaneAxis (lane : Nat) : Nat :=
  lane &&& 15

/-- `wmma_lane_parity`. -/
def wmmaLaneParity (lane : Nat) : Nat :=
  lane >>> 4

section Fragments

variable {Operand Accumulator : Type}

/-- `wmma_load_a_row`: 16 consecutive values. -/
def wmmaLoadARow
    (memory : Nat → Operand)
    (row : Nat) : List Operand :=
  (List.range 16).map fun slot => memory (row + slot)

/-- `wmma_load_b_from_lds`: a column of 16 rows of the tile. -/
def wmmaLoadBFromLds
    (memory : Nat → Operand)
    (tile columns index : Nat) : List Operand :=
  (List.range 16).map fun slot => memory (tile + (slot * columns + index))

/--
`wmma_mma` under the lane map: slot `i` of lane `t` is the element of row
`2 * i + (t >> 4)` and column `t & 15`, and an element reads its row and its column from
the half of the wave that the parity of the row selects.
-/
def wmmaMma
    (unit : MatrixUnit Operand Accumulator)
    (a b : Nat → List Operand)
    (c : Nat → Nat → Accumulator) : Nat → Nat → Accumulator :=
  fun lane slot =>
    let row := 2 * slot + wmmaLaneParity lane
    let column := wmmaLaneAxis lane
    unit.accumulate (a (row + 16 * (row % 2))) (b (column + 16 * (row % 2))) (c lane slot)

/-- `wmma_zero_accumulator`. -/
def wmmaZeroAccumulator
    (unit : MatrixUnit Operand Accumulator) : Nat → Nat → Accumulator :=
  fun _ _ => unit.zero

end Fragments

/-! ## The lane map -/

/-- The axis of a lane is its place in its half-wave, -/
theorem wmmaLaneAxis_eq (lane : Nat) : wmmaLaneAxis lane = lane % 16 :=
  Nat.and_two_pow_sub_one_eq_mod lane 4

/-- and its parity says which half that is. -/
theorem wmmaLaneParity_eq (lane : Nat) : wmmaLaneParity lane = lane / 16 :=
  Nat.shiftRight_eq_div_pow lane 4

theorem wmmaLaneAxis_half
    {axis : Nat}
    (inside : axis < 16)
    (half : Nat) :
    wmmaLaneAxis (axis + 16 * half) = axis := by
  rw [wmmaLaneAxis_eq]
  omega

/--
The product of a wave whose fragments depend on the lane's axis only: slot `i` of lane
`t` takes the fragment of its row and that of its column.
-/
theorem wmmaMma_eq
    {Operand Accumulator : Type}
    (unit : MatrixUnit Operand Accumulator)
    (rows columns : Nat → List Operand)
    (c : Nat → Nat → Accumulator)
    {lane slot : Nat}
    (laneInside : lane < 32)
    (slotInside : slot < 8) :
    wmmaMma unit (fun other => rows (wmmaLaneAxis other))
        (fun other => columns (wmmaLaneAxis other)) c lane slot =
      unit.accumulate (rows (2 * slot + lane / 16)) (columns (lane % 16))
        (c lane slot) := by
  have row : 2 * slot + wmmaLaneParity lane < 16 := by
    rw [wmmaLaneParity_eq]
    omega
  have column : wmmaLaneAxis lane < 16 := by
    rw [wmmaLaneAxis_eq]
    omega
  rw [wmmaMma, wmmaLaneAxis_half row, wmmaLaneAxis_half column, wmmaLaneParity_eq,
    wmmaLaneAxis_eq]

end Aeon.Rdna3
