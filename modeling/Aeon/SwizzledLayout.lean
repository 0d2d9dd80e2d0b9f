import Aeon.MixedRadix
import Mathlib.Tactic.IntervalCases
import Mathlib.Tactic.Ring

namespace Aeon.SwizzledW4A16

open Aeon.Layout

/-!
# The swizzled expert weight layout

An expert matrix is `N` rows of `K` four-bit weights, eight to a word, with one
scale for each group of 32 columns.  The swizzled layout stores one group of one
row as four words in a cell of its own and numbers the cells as the lanes of a
wave read them.  The program writes this layout twice: `swizzle_w4a16` in C++ and
`swizzle_tensor` after `permute_words` in the Python converter.  Both are the same
list of cells in the same order.
-/

/-- How a wave of 32 lanes is cut into rows and slices of a row. -/
structure SwizzleCfg where
  rpw : Nat
  lpr : Nat
  deriving DecidableEq, Repr

def kCfgW13 : SwizzleCfg := ⟨4, 8⟩

def kCfgW2 : SwizzleCfg := ⟨8, 4⟩

/-- What `validate_w4a16_swizzle` asserts of two `int` dimensions. -/
structure ValidSwizzle (N K : Nat) (cfg : SwizzleCfg) : Prop where
  wave : cfg.rpw * cfg.lpr = 32
  rows : 0 < N
  columns : 0 < K
  row_blocks : N % cfg.rpw = 0
  groups : K % 32 = 0
  iterations : (K / 32) % cfg.lpr = 0
  int_rows : N < 2 ^ 31
  int_columns : K < 2 ^ 31

/-! ## The nibbles of a word -/

def kNibblePerm : List Nat := [0, 2, 4, 6, 1, 3, 5, 7]

/-- Four bits of a word. -/
def nibble (word : BitVec 32) (position : Nat) : BitVec 32 :=
  (word >>> (4 * position)) &&& 0xF#32

def permuteW4a16Word (source : BitVec 32) : BitVec 32 :=
  (List.range 8).foldl (fun destination position =>
    destination |||
      nibble source (kNibblePerm.getD position 0) <<< (4 * position)) 0

def unpermuteW4a16Word (source : BitVec 32) : BitVec 32 :=
  (List.range 8).foldl (fun destination position =>
    destination |||
      nibble source position <<< (4 * kNibblePerm.getD position 0)) 0

theorem getLsbD_fifteen (bit : Nat) :
    (0xF#32).getLsbD bit = decide (bit < 4) := by
  by_cases small : bit < 4
  · interval_cases bit <;> rfl
  · have clear : Nat.testBit 15 bit = false :=
      Nat.testBit_lt_two_pow
        (lt_of_lt_of_le (by decide : 15 < 2 ^ 4)
          (Nat.pow_le_pow_right (by decide) (Nat.le_of_not_lt small)))
    simp [BitVec.getLsbD_ofNat, clear, small]

theorem getLsbD_nibble
    (word : BitVec 32)
    (position bit : Nat) :
    (nibble word position).getLsbD bit =
      (decide (bit < 4) && word.getLsbD (4 * position + bit)) := by
  simp [nibble, getLsbD_fifteen, Bool.and_comm]

theorem nibble_or
    (first second : BitVec 32)
    (position : Nat) :
    nibble (first ||| second) position =
      nibble first position ||| nibble second position := by
  apply BitVec.eq_of_getLsbD_eq
  intro bit _
  simp [getLsbD_nibble, Bool.and_or_distrib_left]

theorem nibble_zero (position : Nat) : nibble 0 position = 0 := by
  simp [nibble]

theorem nibble_placed
    (word : BitVec 32)
    (source : Nat)
    {position place : Nat}
    (inside : place < 8) :
    nibble (nibble word source <<< (4 * place)) position =
      if position = place then nibble word source else 0 := by
  apply BitVec.eq_of_getLsbD_eq
  intro bit _
  rw [getLsbD_nibble, BitVec.getLsbD_shiftLeft, getLsbD_nibble]
  by_cases small : bit < 4
  · rcases Nat.lt_trichotomy position place with below | rfl | above
    · have before : 4 * position + bit < 4 * place := by omega
      simp [before, below.ne]
    · have within : 4 * position + bit < 32 := by omega
      simp [getLsbD_nibble, small, within]
    · have past : ¬ 4 * position + bit - 4 * place < 4 := by omega
      simp [past, above.ne']
  · by_cases same : position = place
    · simp [small, same, getLsbD_nibble]
    · simp [small, same]

theorem word_ext
    {first second : BitVec 32}
    (same : ∀ position < 8, nibble first position = nibble second position) :
    first = second := by
  apply BitVec.eq_of_getLsbD_eq
  intro bit bound
  have at_nibble := congrArg (fun digit => digit.getLsbD (bit % 4))
    (same (bit / 4) (by omega))
  have small : bit % 4 < 4 := Nat.mod_lt bit (by decide)
  simpa [getLsbD_nibble, small, Nat.div_add_mod] using at_nibble

section

variable
    (word : BitVec 32)
    {position : Nat}
    (inside : position < 8)

include word inside

/-- A permuted word holds the weights in the kernel's order. -/
theorem nibble_permute :
    nibble (permuteW4a16Word word) position =
      nibble word (kNibblePerm.getD position 0) := by
  simp only [permuteW4a16Word, List.range, List.range.loop, List.foldl]
  simp (disch := decide) only [nibble_or, nibble_zero, nibble_placed]
  interval_cases position <;> simp

theorem nibble_unpermute :
    nibble (unpermuteW4a16Word word) (kNibblePerm.getD position 0) =
      nibble word position := by
  simp only [unpermuteW4a16Word, List.range, List.range.loop, List.foldl]
  simp (disch := decide) only [nibble_or, nibble_zero, nibble_placed]
  interval_cases position <;> simp [kNibblePerm]

end

/-- The permutation of a word is undone. -/
@[simp]
theorem unpermute_permute (word : BitVec 32) :
    unpermuteW4a16Word (permuteW4a16Word word) = word := by
  apply word_ext
  intro position inside
  obtain ⟨place, place_lt, rfl⟩ :
      ∃ place < 8, kNibblePerm.getD place 0 = position := by
    revert position
    decide
  rw [nibble_unpermute _ place_lt, nibble_permute _ place_lt]

/-! ## The loops of the C++ swizzle -/

/-- One round of the four loops: a row block, an iteration, a row and a slice. -/
structure Slot where
  block : Nat
  iteration : Nat
  row : Nat
  slice : Nat
  deriving DecidableEq, Repr

/-- `for block`, `for iteration`, `for row`, `for slice`, and the body's stores. -/
def swizzleLoop
    {Item : Type}
    (N K : Nat)
    (cfg : SwizzleCfg)
    (body : Slot → List Item) : List Item :=
  (List.range (N / cfg.rpw)).flatMap fun block =>
    (List.range (K / 32 / cfg.lpr)).flatMap fun iteration =>
      (List.range cfg.rpw).flatMap fun row =>
        (List.range cfg.lpr).flatMap fun slice =>
          body ⟨block, iteration, row, slice⟩

namespace Slot

variable (K : Nat) (cfg : SwizzleCfg) (slot : Slot)

def sourceRow : Nat :=
  slot.block * cfg.rpw + slot.row

def sourceGroup : Nat :=
  slot.iteration * cfg.lpr + slot.slice

def lane : Nat :=
  slot.row * cfg.lpr + slot.slice

/-- The cell the loops name `destination_u4`. -/
def destinationU4 : Nat :=
  (slot.block * (K / 32 / cfg.lpr) + slot.iteration) * 32 + slot.lane cfg

/-- The first of the four source words of the group. -/
def sourceWord : Nat :=
  slot.sourceRow cfg * (K / 8) + slot.sourceGroup cfg * 4

/-- The source scale of the group. -/
def sourceScale : Nat :=
  slot.sourceRow cfg * (K / 32) + slot.sourceGroup cfg

end Slot

section Writers

variable {Scale : Type}

/-- The stores of `swizzle_w4a16` into `destination_packed`. -/
def swizzlePackedStores
    (source : Buffer (BitVec 32))
    (N K : Nat)
    (cfg : SwizzleCfg) : List (Nat × Option (BitVec 32)) :=
  swizzleLoop N K cfg fun slot =>
    (List.range 4).map fun word =>
      (slot.destinationU4 K cfg * 4 + word,
        (source (slot.sourceWord K cfg + word)).map permuteW4a16Word)

/-- The stores of `swizzle_w4a16` into `destination_scale`. -/
def swizzleScaleStores
    (source : Buffer Scale)
    (N K : Nat)
    (cfg : SwizzleCfg) : List (Nat × Option Scale) :=
  swizzleLoop N K cfg fun slot =>
    [(slot.destinationU4 K cfg, source (slot.sourceScale K cfg))]

/-- The two destinations after `swizzle_w4a16`. -/
def swizzleW4a16
    (sourcePacked : Buffer (BitVec 32))
    (sourceScale : Buffer Scale)
    (N K : Nat)
    (cfg : SwizzleCfg) : Buffer (BitVec 32) × Buffer Scale :=
  (scatter (swizzlePackedStores sourcePacked N K cfg),
    scatter (swizzleScaleStores sourceScale N K cfg))

/-- The two destinations after `unswizzle_w4a16`. -/
def unswizzleW4a16
    (sourcePacked : Buffer (BitVec 32))
    (sourceScale : Buffer Scale)
    (N K : Nat)
    (cfg : SwizzleCfg) : Buffer (BitVec 32) × Buffer Scale :=
  (scatter <| swizzleLoop N K cfg fun slot =>
      (List.range 4).map fun word =>
        (slot.sourceWord K cfg + word,
          (sourcePacked (slot.destinationU4 K cfg * 4 + word)).map
            unpermuteW4a16Word),
    scatter <| swizzleLoop N K cfg fun slot =>
      [(slot.sourceScale K cfg, sourceScale (slot.destinationU4 K cfg))])

end Writers

/-! ## The Python converter -/

def NIBBLE_PERM : List Nat := [0, 2, 4, 6, 1, 3, 5, 7]

/-- One element of `permute_words`. -/
def permuteWord (word : BitVec 32) : BitVec 32 :=
  NIBBLE_PERM.zipIdx.foldl (fun result place =>
    result ||| ((word >>> (4 * place.1)) &&& 0xF#32) <<< (4 * place.2)) 0

def permuteWords (words : NdArray (BitVec 32)) : NdArray (BitVec 32) :=
  { words with data := words.data.map permuteWord }

/-- The two element types of an expert payload. -/
inductive Dtype where
  | u4
  | f2
  deriving DecidableEq, Repr

/-- The elements a group of 32 columns has in an array of this type. -/
def Dtype.inner : Dtype → Nat
  | u4 => 4
  | f2 => 1

/-- `swizzle_tensor`; `none` is the error of unpacking a shape or of reshaping. -/
def swizzleTensor
    {Item : Type}
    (dtype : Dtype)
    (source : NdArray Item)
    (rowsPerWave lanesPerRow : Nat) : Option (List Item) :=
  match source.shape with
  | [rows, columns] => do
      let groups := columns / dtype.inner
      let iterations := groups / lanesPerRow
      let rowBlocks := rows / rowsPerWave
      let reshaped ← NdArray.ofShape source.data
        [rowBlocks, rowsPerWave, iterations, lanesPerRow, dtype.inner]
      (reshaped.transpose [0, 2, 1, 3, 4]).contiguous
  | _ => none

/-- `swizzle_expert_payload` on one packed matrix. -/
def convertPacked
    (source : List (BitVec 32))
    (rows K rowsPerWave lanesPerRow : Nat) : Option (List (BitVec 32)) := do
  let words ← NdArray.ofShape source [rows, K / 8]
  swizzleTensor .u4 (permuteWords words) rowsPerWave lanesPerRow

/-- `swizzle_expert_payload` on one scale matrix. -/
def convertScale
    {Scale : Type}
    (source : List Scale)
    (rows K rowsPerWave lanesPerRow : Nat) : Option (List Scale) := do
  let scales ← NdArray.ofShape source [rows, K / 32]
  swizzleTensor .f2 scales rowsPerWave lanesPerRow

/-! ## Cells

The four loops run over the cells in order, and a cell's place in the source is a
permutation of the cells.
-/

/-- The round of the loops that writes a cell. -/
def slotAt (K : Nat) (cfg : SwizzleCfg) (cell : Nat) : Slot :=
  ⟨cell / 32 / (K / 32 / cfg.lpr), cell / 32 % (K / 32 / cfg.lpr),
    cell % 32 / cfg.lpr, cell % 32 % cfg.lpr⟩

/-- The cell of a row and a group of columns. -/
def storageCell (K : Nat) (cfg : SwizzleCfg) (row group : Nat) : Nat :=
  (row / cfg.rpw * (K / 32 / cfg.lpr) + group / cfg.lpr) * 32 +
    (row % cfg.rpw * cfg.lpr + group % cfg.lpr)

section Cells

variable {N K : Nat} {cfg : SwizzleCfg}

theorem ValidSwizzle.rpw_pos (valid : ValidSwizzle N K cfg) : 0 < cfg.rpw := by
  have wave := valid.wave
  refine Nat.pos_of_ne_zero fun none => ?_
  simp [none] at wave

theorem ValidSwizzle.lpr_pos (valid : ValidSwizzle N K cfg) : 0 < cfg.lpr := by
  have wave := valid.wave
  refine Nat.pos_of_ne_zero fun none => ?_
  simp [none] at wave

/-- Every group of 32 columns is an iteration and a slice. -/
theorem ValidSwizzle.groups_eq (valid : ValidSwizzle N K cfg) :
    K / 32 / cfg.lpr * cfg.lpr = K / 32 :=
  Nat.div_mul_cancel (Nat.dvd_of_mod_eq_zero valid.iterations)

theorem ValidSwizzle.rows_eq (valid : ValidSwizzle N K cfg) :
    N / cfg.rpw * cfg.rpw = N :=
  Nat.div_mul_cancel (Nat.dvd_of_mod_eq_zero valid.row_blocks)

/-- A group of columns is four words of the source. -/
theorem ValidSwizzle.words_eq (valid : ValidSwizzle N K cfg) :
    K / 8 = K / 32 * 4 := by
  have groups := valid.groups
  omega

theorem ValidSwizzle.cells_eq (valid : ValidSwizzle N K cfg) :
    N / cfg.rpw * (K / 32 / cfg.lpr) * 32 = N * (K / 32) := by
  calc N / cfg.rpw * (K / 32 / cfg.lpr) * 32
      = N / cfg.rpw * (K / 32 / cfg.lpr) * (cfg.rpw * cfg.lpr) := by
        rw [valid.wave]
    _ = N / cfg.rpw * cfg.rpw * (K / 32 / cfg.lpr * cfg.lpr) := by ring
    _ = N * (K / 32) := by rw [valid.rows_eq, valid.groups_eq]

variable {Item : Type}
variable {row group : Nat}
variable {index : Nat}

/-- The nested loops run over the cells in storage order. -/
theorem swizzleLoop_eq
    (valid : ValidSwizzle N K cfg)
    (body : Slot → List Item) :
    swizzleLoop N K cfg body =
      (List.range (N * (K / 32))).flatMap fun cell =>
        body (slotAt K cfg cell) := by
  unfold swizzleLoop
  simp only [range_flatMap_digits cfg.rpw, valid.wave]
  rw [range_flatMap_digits (N / cfg.rpw), range_flatMap_digits, valid.cells_eq]
  rfl

/-- A round of the loops writes its own cell. -/
theorem destinationU4_slotAt (cell : Nat) :
    (slotAt K cfg cell).destinationU4 K cfg = cell := by
  simp only [Slot.destinationU4, Slot.lane, slotAt]
  rw [Nat.div_add_mod', Nat.div_add_mod', Nat.div_add_mod']

section

variable
    (valid : ValidSwizzle N K cfg)

include valid

/-- A cell stands for a row and a group of the matrix. -/
theorem sourceScale_lt
    {cell : Nat}
    (inside : cell < N * (K / 32)) :
    (slotAt K cfg cell).sourceRow cfg < N ∧
      (slotAt K cfg cell).sourceGroup cfg < K / 32 := by
  have iterations_pos : 0 < K / 32 / cfg.lpr := by
    refine Nat.pos_of_ne_zero fun none => ?_
    have groups := valid.groups_eq
    rw [none, Nat.zero_mul] at groups
    rw [← groups] at inside
    simp at inside
  rw [← valid.cells_eq] at inside
  have wave_lt : cell % 32 < cfg.rpw * cfg.lpr := by
    rw [valid.wave]
    exact Nat.mod_lt cell (by decide)
  constructor
  · calc (slotAt K cfg cell).sourceRow cfg
        < N / cfg.rpw * cfg.rpw :=
          digit_lt
            (Nat.div_lt_of_lt_mul (by
              rw [Nat.mul_comm (K / 32 / cfg.lpr)]
              exact Nat.div_lt_of_lt_mul (by rwa [Nat.mul_comm 32])))
            (Nat.div_lt_of_lt_mul (by rwa [Nat.mul_comm cfg.lpr]))
      _ = N := valid.rows_eq
  · calc (slotAt K cfg cell).sourceGroup cfg
        < K / 32 / cfg.lpr * cfg.lpr :=
          digit_lt (Nat.mod_lt _ iterations_pos) (Nat.mod_lt _ valid.lpr_pos)
      _ = K / 32 := valid.groups_eq

/-- The slot of a row and a group. -/
theorem slotAt_storageCell
    (group_lt : group < K / 32) :
    slotAt K cfg (storageCell K cfg row group) =
      ⟨row / cfg.rpw, group / cfg.lpr, row % cfg.rpw, group % cfg.lpr⟩ := by
  have slice_lt : group % cfg.lpr < cfg.lpr := Nat.mod_lt _ valid.lpr_pos
  have lane_lt : row % cfg.rpw * cfg.lpr + group % cfg.lpr < 32 := by
    rw [← valid.wave]
    exact digit_lt (Nat.mod_lt _ valid.rpw_pos) slice_lt
  have iteration_lt : group / cfg.lpr < K / 32 / cfg.lpr := by
    refine Nat.div_lt_of_lt_mul ?_
    rwa [Nat.mul_comm, valid.groups_eq]
  simp only [slotAt, storageCell, digit_div lane_lt, digit_mod lane_lt,
    digit_div iteration_lt, digit_mod iteration_lt, digit_div slice_lt,
    digit_mod slice_lt]

theorem sourceScale_storageCell
    (group_lt : group < K / 32) :
    (slotAt K cfg (storageCell K cfg row group)).sourceScale K cfg =
      row * (K / 32) + group := by
  rw [slotAt_storageCell valid group_lt]
  simp only [Slot.sourceScale, Slot.sourceRow, Slot.sourceGroup,
    Nat.div_add_mod']

/-- And its cell again. -/
theorem storageCell_slotAt
    (cell : Nat) :
    storageCell K cfg ((slotAt K cfg cell).sourceRow cfg)
      ((slotAt K cfg cell).sourceGroup cfg) = cell := by
  have slice_lt : (slotAt K cfg cell).slice < cfg.lpr :=
    Nat.mod_lt _ valid.lpr_pos
  have row_lt : (slotAt K cfg cell).row < cfg.rpw := by
    refine Nat.div_lt_of_lt_mul ?_
    rw [Nat.mul_comm, valid.wave]
    exact Nat.mod_lt cell (by decide)
  calc storageCell K cfg ((slotAt K cfg cell).sourceRow cfg)
        ((slotAt K cfg cell).sourceGroup cfg)
      = (slotAt K cfg cell).destinationU4 K cfg := by
        simp only [storageCell, Slot.sourceRow, Slot.sourceGroup,
          digit_div slice_lt, digit_mod slice_lt, digit_div row_lt,
          digit_mod row_lt]
        rfl
    _ = cell := destinationU4_slotAt cell

theorem storageCell_lt
    (row_lt : row < N)
    (group_lt : group < K / 32) :
    storageCell K cfg row group < N * (K / 32) := by
  rw [← valid.cells_eq]
  apply digit_lt
  · apply digit_lt
    · exact Nat.div_lt_of_lt_mul (by rwa [Nat.mul_comm, valid.rows_eq])
    · exact Nat.div_lt_of_lt_mul (by rwa [Nat.mul_comm, valid.groups_eq])
  · rw [← valid.wave]
    exact digit_lt (Nat.mod_lt _ valid.rpw_pos) (Nat.mod_lt _ valid.lpr_pos)

end

/-- The cell that takes a scale of the source. -/
def destinationCell (K : Nat) (cfg : SwizzleCfg) (index : Nat) : Nat :=
  storageCell K cfg (index / (K / 32)) (index % (K / 32))

section

variable
    (valid : ValidSwizzle N K cfg)

include valid

theorem sourceScale_destinationCell
    (inside : index < N * (K / 32)) :
    destinationCell K cfg index < N * (K / 32) ∧
      (slotAt K cfg (destinationCell K cfg index)).sourceScale K cfg = index := by
  have groups_pos : 0 < K / 32 :=
    Nat.pos_of_ne_zero fun none => by simp [none] at inside
  have group_lt := Nat.mod_lt index groups_pos
  constructor
  · exact storageCell_lt valid
      (Nat.div_lt_of_lt_mul (by rwa [Nat.mul_comm])) group_lt
  · rw [destinationCell, sourceScale_storageCell valid group_lt,
      Nat.div_add_mod']

theorem destinationCell_sourceScale
    {cell : Nat}
    (inside : cell < N * (K / 32)) :
    (slotAt K cfg cell).sourceScale K cfg < N * (K / 32) ∧
      destinationCell K cfg ((slotAt K cfg cell).sourceScale K cfg) = cell := by
  obtain ⟨row_lt, group_lt⟩ := sourceScale_lt valid inside
  constructor
  · exact digit_lt row_lt group_lt
  · simp only [destinationCell, Slot.sourceScale, digit_div group_lt,
      digit_mod group_lt]
    exact storageCell_slotAt valid cell

theorem ValidSwizzle.sourceWord_eq
    (slot : Slot) :
    slot.sourceWord K cfg = slot.sourceScale K cfg * 4 := by
  simp only [Slot.sourceWord, Slot.sourceScale, valid.words_eq]
  ring

end

/-- The source word that goes into a destination word. -/
def sourceIndex (K : Nat) (cfg : SwizzleCfg) (index : Nat) : Nat :=
  (slotAt K cfg (index / 4)).sourceScale K cfg * 4 + index % 4

section

variable
    (valid : ValidSwizzle N K cfg)
    (item : Nat → Nat → Item)

include valid item

theorem swizzleLoop_words :
    (swizzleLoop N K cfg fun slot =>
        (List.range 4).map fun word =>
          item (slot.destinationU4 K cfg * 4 + word)
            (slot.sourceWord K cfg + word)) =
      (List.range (N * (K / 8))).map fun index =>
        item index (sourceIndex K cfg index) := by
  simp only [swizzleLoop_eq valid, destinationU4_slotAt, valid.sourceWord_eq,
    List.map_eq_flatMap]
  rw [range_flatMap_digits (N * (K / 32)) 4 fun cell word =>
    [item (cell * 4 + word)
      ((slotAt K cfg cell).sourceScale K cfg * 4 + word)]]
  simp only [Nat.div_add_mod', valid.words_eq, Nat.mul_assoc]
  rfl

theorem swizzleLoop_scales :
    (swizzleLoop N K cfg fun slot =>
        [item (slot.destinationU4 K cfg) (slot.sourceScale K cfg)]) =
      (List.range (N * (K / 32))).map fun cell =>
        item cell ((slotAt K cfg cell).sourceScale K cfg) := by
  simp only [swizzleLoop_eq valid, destinationU4_slotAt, List.map_eq_flatMap]

end

/-- The destination word of a source word. -/
def destinationIndex (K : Nat) (cfg : SwizzleCfg) (index : Nat) : Nat :=
  destinationCell K cfg (index / 4) * 4 + index % 4

section

variable
    (valid : ValidSwizzle N K cfg)
    (inside : index < N * (K / 8))

include valid inside

/-- Source and destination of a word are inverse. -/
theorem sourceIndex_destinationIndex :
    destinationIndex K cfg index < N * (K / 8) ∧
      sourceIndex K cfg (destinationIndex K cfg index) = index := by
  rw [valid.words_eq, ← Nat.mul_assoc] at inside ⊢
  have word_lt : index % 4 < 4 := Nat.mod_lt index (by decide)
  obtain ⟨cell_lt, cell_eq⟩ := sourceScale_destinationCell valid
    (Nat.div_lt_of_lt_mul (by rwa [Nat.mul_comm 4]) : index / 4 < N * (K / 32))
  constructor
  · exact digit_lt cell_lt word_lt
  · rw [sourceIndex, destinationIndex, digit_div word_lt, digit_mod word_lt,
      cell_eq, Nat.div_add_mod']

theorem destinationIndex_sourceIndex :
    sourceIndex K cfg index < N * (K / 8) ∧
      destinationIndex K cfg (sourceIndex K cfg index) = index := by
  rw [valid.words_eq, ← Nat.mul_assoc] at inside ⊢
  have word_lt : index % 4 < 4 := Nat.mod_lt index (by decide)
  obtain ⟨scale_lt, scale_eq⟩ := destinationCell_sourceScale valid
    (Nat.div_lt_of_lt_mul (by rwa [Nat.mul_comm 4]) : index / 4 < N * (K / 32))
  constructor
  · exact digit_lt scale_lt word_lt
  · rw [destinationIndex, sourceIndex, digit_div word_lt, digit_mod word_lt,
      scale_eq, Nat.div_add_mod']

end

end Cells

/-! ## What the writers leave in memory -/

section Written

variable {Scale : Type} {N K : Nat} {cfg : SwizzleCfg}

section

variable
    (valid : ValidSwizzle N K cfg)

include valid

theorem swizzlePackedStores_eq
    (source : Buffer (BitVec 32)) :
    swizzlePackedStores source N K cfg =
      (List.range (N * (K / 8))).map fun index =>
        (index, (source (sourceIndex K cfg index)).map permuteW4a16Word) :=
  swizzleLoop_words valid fun place home =>
    (place, (source home).map permuteW4a16Word)

theorem swizzleScaleStores_eq
    (source : Buffer Scale) :
    swizzleScaleStores source N K cfg =
      (List.range (N * (K / 32))).map fun cell =>
        (cell, source ((slotAt K cfg cell).sourceScale K cfg)) :=
  swizzleLoop_scales valid fun place home => (place, source home)

/-- Each word is stored once, in order, -/
theorem swizzlePackedStores_once
    (source : Buffer (BitVec 32)) :
    (swizzlePackedStores source N K cfg).map Prod.fst =
      List.range (N * (K / 8)) := by
  simp [swizzlePackedStores_eq valid, Function.comp_def]

/-- and so is each scale. -/
theorem swizzleScaleStores_once
    (source : Buffer Scale) :
    (swizzleScaleStores source N K cfg).map Prod.fst =
      List.range (N * (K / 32)) := by
  simp [swizzleScaleStores_eq valid, Function.comp_def]

end

section

variable
    (valid : ValidSwizzle N K cfg)
    (packed : Buffer (BitVec 32))
    (scale : Buffer Scale)

include valid packed scale

/-- What the swizzle leaves in the words. -/
theorem swizzle_packed :
    (swizzleW4a16 packed scale N K cfg).1 = fun index =>
      if index < N * (K / 8) then
        (packed (sourceIndex K cfg index)).map permuteW4a16Word
      else none := by
  rw [swizzleW4a16, swizzlePackedStores_eq valid]
  exact scatter_range (fun index =>
      (packed (sourceIndex K cfg index)).map permuteW4a16Word)
    (fun _ inside => ⟨inside, rfl⟩) (fun _ inside => ⟨inside, rfl⟩)

/-- What it leaves in the scales. -/
theorem swizzle_scale :
    (swizzleW4a16 packed scale N K cfg).2 = fun cell =>
      if cell < N * (K / 32) then
        scale ((slotAt K cfg cell).sourceScale K cfg)
      else none := by
  rw [swizzleW4a16, swizzleScaleStores_eq valid]
  exact scatter_range (fun cell => scale ((slotAt K cfg cell).sourceScale K cfg))
    (fun _ inside => ⟨inside, rfl⟩) (fun _ inside => ⟨inside, rfl⟩)

theorem unswizzle_packed :
    (unswizzleW4a16 packed scale N K cfg).1 = fun index =>
      if index < N * (K / 8) then
        (packed (destinationIndex K cfg index)).map unpermuteW4a16Word
      else none := by
  rw [unswizzleW4a16]
  refine Eq.trans (congrArg scatter (swizzleLoop_words valid fun place home =>
    (home, (packed place).map unpermuteW4a16Word))) ?_
  exact scatter_range (fun index => (packed index).map unpermuteW4a16Word)
    (fun _ inside => sourceIndex_destinationIndex valid inside)
    (fun _ inside => destinationIndex_sourceIndex valid inside)

theorem unswizzle_scale :
    (unswizzleW4a16 packed scale N K cfg).2 = fun index =>
      if index < N * (K / 32) then scale (destinationCell K cfg index)
      else none := by
  rw [unswizzleW4a16]
  refine Eq.trans (congrArg scatter (swizzleLoop_scales valid fun place home =>
    (home, scale place))) ?_
  exact scatter_range scale
    (fun _ inside => sourceScale_destinationCell valid inside)
    (fun _ inside => destinationCell_sourceScale valid inside)

end

/-- The unswizzle reads back what was swizzled. -/
theorem unswizzle_swizzle
    (valid : ValidSwizzle N K cfg)
    {packed : List (BitVec 32)}
    {scale : List Scale}
    (packed_length : packed.length = N * (K / 8))
    (scale_length : scale.length = N * (K / 32)) :
    let written := swizzleW4a16 (.ofList packed) (.ofList scale) N K cfg
    unswizzleW4a16 written.1 written.2 N K cfg =
      (.ofList packed, .ofList scale) := by
  intro written
  apply Prod.ext
  · rw [unswizzle_packed valid, swizzle_packed valid]
    funext index
    by_cases inside : index < N * (K / 8)
    · obtain ⟨place_lt, home⟩ := sourceIndex_destinationIndex valid inside
      simp [inside, place_lt, home, Function.comp_def]
    · simp [Buffer.ofList, inside, packed_length]
  · rw [unswizzle_scale valid, swizzle_scale valid]
    funext index
    by_cases inside : index < N * (K / 32)
    · obtain ⟨place_lt, home⟩ := sourceScale_destinationCell valid inside
      simp [inside, place_lt, home]
    · simp [Buffer.ofList, inside, scale_length]

end Written

/-! ## The converter writes the same -/

section Converted

variable {N K : Nat} {cfg : SwizzleCfg}

/-- The strides of the converter's permuted view. -/
theorem offsets_eq
    (valid : ValidSwizzle N K cfg)
    (inner : Nat) :
    offsets [N / cfg.rpw, K / 32 / cfg.lpr, cfg.rpw, cfg.lpr, inner]
        [[cfg.rpw, K / 32 / cfg.lpr, cfg.lpr, inner].prod, [cfg.lpr, inner].prod,
          [K / 32 / cfg.lpr, cfg.lpr, inner].prod, [inner].prod, 1] =
      swizzleLoop N K cfg fun slot =>
        (List.range inner).map fun element =>
          slot.sourceScale K cfg * inner + element := by
  simp only [offsets, List.map_flatMap, List.map_cons, List.map_nil, swizzleLoop]
  refine List.flatMap_congr fun block _ => List.flatMap_congr fun iteration _ =>
    List.flatMap_congr fun row _ => List.flatMap_congr fun slice _ => ?_
  rw [List.map_eq_flatMap]
  refine List.flatMap_congr fun element _ => ?_
  simp only [Slot.sourceScale, Slot.sourceRow, Slot.sourceGroup, List.prod_cons,
    List.prod_nil]
  have groups := valid.groups_eq
  generalize K / 32 / cfg.lpr = iterations at groups
  rw [← groups]
  congr 1
  ring

/-- The words a memory has from its first cell on; `none` is an unwritten one. -/
def image {Item : Type} (buffer : Buffer Item) (count : Nat) :
    Option (List Item) :=
  (List.range count).mapM buffer

/-- A reshaped and transposed array, copied out. -/
theorem swizzleTensor_eq
    {Item : Type}
    (valid : ValidSwizzle N K cfg)
    (dtype : Dtype)
    {data : List Item}
    (data_length : data.length = N * (K / 32 * dtype.inner)) :
    swizzleTensor dtype
        ⟨[N, K / 32 * dtype.inner], rowMajor [N, K / 32 * dtype.inner], data⟩
        cfg.rpw cfg.lpr =
      (swizzleLoop N K cfg fun slot =>
        (List.range dtype.inner).map fun element =>
          slot.sourceScale K cfg * dtype.inner + element).mapM
        fun index => data[index]? := by
  have inner_pos : 0 < dtype.inner := by cases dtype <;> decide
  have size : data.length =
      [N / cfg.rpw, cfg.rpw, K / 32 / cfg.lpr, cfg.lpr, dtype.inner].prod := by
    calc data.length
        = N * (K / 32 * dtype.inner) := data_length
      _ = N / cfg.rpw * cfg.rpw *
            (K / 32 / cfg.lpr * cfg.lpr * dtype.inner) := by
          rw [valid.rows_eq, valid.groups_eq]
      _ = _ := by
          simp only [List.prod_cons, List.prod_nil]
          ring
  simp only [swizzleTensor, Nat.mul_div_cancel _ inner_pos, NdArray.ofShape,
    if_pos size, Option.bind_eq_bind, Option.bind_some]
  rw [← offsets_eq valid]
  rfl

section

variable
    {Scale : Type}
    (valid : ValidSwizzle N K cfg)

include valid

/-- The converter writes the same words, -/
theorem convertPacked_eq
    {packed : List (BitVec 32)}
    (packed_length : packed.length = N * (K / 8))
    (scale : Buffer Scale) :
    convertPacked packed N K cfg.rpw cfg.lpr =
      image (swizzleW4a16 (.ofList packed) scale N K cfg).1 (N * (K / 8)) := by
  have size : packed.length = [N, K / 8].prod := by
    simpa using packed_length
  have permuted_length : (packed.map permuteWord).length =
      N * (K / 32 * Dtype.u4.inner) := by
    rw [List.length_map, packed_length, valid.words_eq]
    rfl
  calc convertPacked packed N K cfg.rpw cfg.lpr
      = swizzleTensor .u4
          ⟨[N, K / 32 * 4], rowMajor [N, K / 32 * 4], packed.map permuteWord⟩
          cfg.rpw cfg.lpr := by
        rw [convertPacked, NdArray.ofShape, if_pos size, valid.words_eq]
        rfl
    _ = _ := swizzleTensor_eq valid .u4 permuted_length
    _ = ((List.range (N * (K / 8))).map (sourceIndex K cfg)).mapM
          fun index => (packed.map permuteWord)[index]? := by
        have words := swizzleLoop_words valid fun _ home => home
        simp only [valid.sourceWord_eq] at words
        rw [← words]
        rfl
    _ = image (swizzleW4a16 (.ofList packed) scale N K cfg).1
          (N * (K / 8)) := by
        rw [swizzle_packed valid, image, List.mapM_map]
        refine mapM_congr fun index inside => ?_
        rw [if_pos (List.mem_range.mp inside)]
        exact List.getElem?_map

/-- and the same scales. -/
theorem convertScale_eq
    (packed : Buffer (BitVec 32))
    {scale : List Scale}
    (scale_length : scale.length = N * (K / 32)) :
    convertScale scale N K cfg.rpw cfg.lpr =
      image (swizzleW4a16 packed (.ofList scale) N K cfg).2 (N * (K / 32)) := by
  have size : scale.length = [N, K / 32].prod := by
    simpa using scale_length
  calc convertScale scale N K cfg.rpw cfg.lpr
      = swizzleTensor .f2 ⟨[N, K / 32 * 1], rowMajor [N, K / 32 * 1], scale⟩
          cfg.rpw cfg.lpr := by
        rw [convertScale, NdArray.ofShape, if_pos size, Nat.mul_one]
        rfl
    _ = _ := swizzleTensor_eq valid .f2 (by simpa [Dtype.inner] using scale_length)
    _ = ((List.range (N * (K / 32))).map fun cell =>
          (slotAt K cfg cell).sourceScale K cfg).mapM
          fun index => scale[index]? := by
        rw [← swizzleLoop_scales valid fun _ home => home]
        simp [Dtype.inner]
    _ = image (swizzleW4a16 packed (.ofList scale) N K cfg).2
          (N * (K / 32)) := by
        rw [swizzle_scale valid, image, List.mapM_map]
        refine mapM_congr fun index inside => ?_
        rw [if_pos (List.mem_range.mp inside)]
        rfl

end

end Converted

end Aeon.SwizzledW4A16
