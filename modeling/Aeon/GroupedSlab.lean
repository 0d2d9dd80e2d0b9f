import Aeon.GroupedFfn
import Aeon.LoopNests

namespace Aeon.Rdna3

open Aeon.BlockReduction (strided)
open Aeon.Layout (range_flatMap_digits range_flatMap_range flatMap_map_comm)
open Aeon.SwizzledW4A16

/-!
# A slab fill and the product over it

A cooperative fill stores each element of the slab once, the weight of its own row and
column; a wave's product over the filled slabs is then, element by element, the sum over
the columns of one row of activations and one row of weights.
-/

section Fill

variable {Scale Operand : Type}

/-- The matrices of an expert in the memory the converter leaves. -/
structure SourceMatrix (Scale : Type) where
  packed : List (BitVec 32)
  scale : List Scale

namespace SourceMatrix

variable (matrix : SourceMatrix Scale)

/-- The matrix as it is swizzled for a launch of this shape. -/
def swizzled (shape : GroupedShape) : PackedMatrix Scale :=
  let memory := written matrix.packed matrix.scale shape.N shape.K shape.cfg
  ⟨memory.1, memory.2⟩

/-- The dequantized weight of an output row and an input column. -/
def weight
    (dequantize : Option Int → Option Scale → Operand)
    (K row column : Nat) : Operand :=
  dequantize (sourceWeight matrix.packed K row column)
    (groupScale matrix.scale K row column)

end SourceMatrix

variable
    (dequantize : Option Int → Option Scale → Operand)
    (shape : GroupedShape)
    (matrix : SourceMatrix Scale)

/-- One slab, element by element. -/
def slabElements (nBase kBase : Nat) : List (Nat × Operand) :=
  (List.range 64).flatMap fun k =>
    (List.range shape.nTile).map fun column =>
      (k * shape.nTile + column,
        matrix.weight dequantize shape.K (nBase + column) (kBase + k))

section

variable
    (valid : ValidSwizzle shape.N shape.K shape.cfg)
    (fits : shape.N * shape.K ≤ 2 ^ 41)
    {nBase kBase : Nat}
    (rowsInside : nBase + shape.nTile ≤ shape.N)
    (columnsInside : kBase + 64 ≤ shape.K)
    (aligned : kBase % 64 = 0)

include valid fits rowsInside columnsInside aligned

/-- A thread owns the group of 32 columns that its last bit selects. -/
theorem slabStores_eq :
    slabStores dequantize shape (matrix.swizzled shape) nBase kBase =
      (List.range shape.nTile).flatMap fun column =>
        (List.range 64).map fun k =>
          (k * shape.nTile + column,
            matrix.weight dequantize shape.K (nBase + column) (kBase + k)) := by
  have threads : shape.waves * 32 = shape.nTile * 2 := by
    rw [GroupedShape.nTile]
    omega
  have perColumn : ∀ column, column ∈ List.range shape.nTile →
      ((List.range 64).map fun k =>
          (k * shape.nTile + column,
            matrix.weight dequantize shape.K (nBase + column) (kBase + k))) =
        (List.range 2).flatMap fun group => (List.range 32).map fun k =>
          ((group * 32 + k) * shape.nTile + column,
            matrix.weight dequantize shape.K (nBase + column)
              (kBase + (group * 32 + k))) := by
    intro column _
    simp only [List.map_eq_flatMap]
    exact (range_flatMap_range 2 32 _).symm
  rw [List.flatMap_congr perColumn, range_flatMap_digits shape.nTile 2, slabStores,
    threads]
  refine List.flatMap_congr fun thread member => ?_
  have inBlock := List.mem_range.mp member
  have row : thread >>> 1 = thread / 2 := Nat.shiftRight_eq_div_pow thread 1
  have group : thread &&& 1 = thread % 2 := Nat.and_two_pow_sub_one_eq_mod thread 1
  have groupColumns : kBase / 32 * 32 = kBase := by omega
  have rowInside : nBase + thread >>> 1 < shape.N := by
    rw [row]
    omega
  have groupInside : kBase / 32 + (thread &&& 1) < shape.K / 32 := by
    rw [group]
    omega
  have loaded :=
    groupedDequantSlab_eq valid fits matrix.packed matrix.scale shape.nTile rowInside
      groupInside
  simp only [SourceMatrix.swizzled, GroupedShape.iterations, loaded, List.map_map]
  refine List.map_congr_left fun k inGroup => ?_
  simp only [Function.comp_apply, sourceLoaded, SourceMatrix.weight, row, group, Prod.mk.injEq]
  have column : (kBase / 32 + thread % 2) * 32 + k = kBase + (thread % 2 * 32 + k) := by
    omega
  rw [column]
  refine ⟨?_, rfl⟩
  ring

theorem slabStores_perm :
    (slabStores dequantize shape (matrix.swizzled shape) nBase kBase).Perm
      (slabElements dequantize shape matrix nBase kBase) := by
  rw [slabStores_eq dequantize shape matrix valid fits rowsInside columnsInside aligned]
  exact flatMap_map_comm _ _ _

end

theorem slabElements_cells (nBase kBase : Nat) :
    (slabElements dequantize shape matrix nBase kBase).map Prod.fst =
      List.range (64 * shape.nTile) := by
  have cells := range_flatMap_range 64 shape.nTile fun cell => [cell]
  rw [List.flatMap_singleton'] at cells
  rw [slabElements, List.map_flatMap, ← cells]
  refine List.flatMap_congr fun k _ => ?_
  rw [List.map_map, List.map_eq_flatMap]
  rfl

theorem fillSlab_of_mem
    {stores : List (Nat × Operand)}
    (once : (stores.map Prod.fst).Nodup)
    (before : Nat → Operand)
    {cell : Nat}
    {value : Operand}
    (stored : (cell, value) ∈ stores) :
    fillSlab stores before cell = value := by
  induction stores generalizing before with
  | nil => cases stored
  | cons first rest ih =>
    rw [List.map_cons, List.nodup_cons] at once
    rcases List.mem_cons.mp stored with rfl | later
    · -- No later store names the cell.
      have untouched : ∀ memory : Nat → Operand,
          fillSlab rest memory cell = memory cell := by
        clear ih stored
        intro memory
        have absent := once.1
        clear once
        induction rest generalizing memory with
        | nil => rfl
        | cons next rest ih =>
          rw [List.map_cons, List.mem_cons, not_or] at absent
          exact (ih _ absent.2).trans
            (Function.update_of_ne absent.1 _ _)
      exact (untouched _).trans (Function.update_self _ _ _)
    · exact ih once.2 _ later

theorem fillSlab_slabStores
    (valid : ValidSwizzle shape.N shape.K shape.cfg)
    (fits : shape.N * shape.K ≤ 2 ^ 41)
    {nBase kBase : Nat}
    (rowsInside : nBase + shape.nTile ≤ shape.N)
    (columnsInside : kBase + 64 ≤ shape.K)
    (aligned : kBase % 64 = 0)
    (before : Nat → Operand)
    {k column : Nat}
    (kInside : k < 64)
    (columnInside : column < shape.nTile) :
    fillSlab (slabStores dequantize shape (matrix.swizzled shape) nBase kBase) before
        (k * shape.nTile + column) =
      matrix.weight dequantize shape.K (nBase + column) (kBase + k) := by
  have perm :=
    slabStores_perm dequantize shape matrix valid fits rowsInside columnsInside aligned
  have once : ((slabStores dequantize shape (matrix.swizzled shape) nBase kBase).map
      Prod.fst).Nodup := by
    rw [(perm.map Prod.fst).nodup_iff, slabElements_cells]
    exact List.nodup_range
  refine fillSlab_of_mem once before ?_
  rw [perm.mem_iff, slabElements, List.mem_flatMap]
  refine ⟨k, List.mem_range.mpr kInside, List.mem_map.mpr ⟨column, ?_, rfl⟩⟩
  exact List.mem_range.mpr columnInside

end Fill

section Product

variable {Scale Operand Accumulator : Type}

/-- The product of a row of activations and a row of weights, 16 columns at a time. -/
def rowColumn
    (unit : MatrixUnit Operand Accumulator)
    (row column : Nat → Operand)
    (K : Nat) : Accumulator :=
  (List.range (K / 16)).foldl
    (fun accumulator step =>
      unit.accumulate ((List.range 16).map fun slot => row (step * 16 + slot))
        ((List.range 16).map fun slot => column (step * 16 + slot)) accumulator)
    unit.zero

theorem foldl_see
    {Step State Value : Type}
    (see : State → Value)
    {steps : List Step}
    {update : State → Step → State}
    {updatePart : Value → Step → Value}
    (partwise : ∀ state step, step ∈ steps →
      see (update state step) = updatePart (see state) step)
    (state : State) :
    see (steps.foldl update state) = steps.foldl updatePart (see state) := by
  induction steps generalizing state with
  | nil => rfl
  | cons step rest ih =>
    rw [List.foldl_cons, List.foldl_cons,
      ih fun state later member =>
        partwise state later (List.mem_cons_of_mem _ member),
      partwise state step List.mem_cons_self]

variable
    (unit : MatrixUnit Operand Accumulator)
    (shape : GroupedShape)
    (memory : Nat → Operand)
    (rowAt : Nat → Nat → Nat)

/-- One element of a tile through the loop over a slab that holds given columns. -/
theorem multiplyBlock_eq
    (weight : Nat → Nat → Operand)
    {slab : Nat → Operand}
    {nWave kBase : Nat}
    (filled : ∀ k column, k < 64 → column < shape.nTile →
      slab (k * shape.nTile + column) = weight column (kBase + k))
    (waveInside : nWave + 16 ≤ shape.nTile)
    (accumulator : Nat → Nat → Nat → Accumulator)
    {tile lane slot : Nat}
    (laneInside : lane < 32)
    (slotInside : slot < 8) :
    multiplyBlock unit shape memory (fun tile lane => rowAt tile (wmmaLaneAxis lane)) nWave
        kBase slab accumulator tile lane slot =
      (List.range 4).foldl
        (fun value kSub =>
          unit.accumulate
            ((List.range 16).map fun k =>
              memory (rowAt tile (2 * slot + lane / 16) + (kBase + (kSub * 16 + k))))
            ((List.range 16).map fun k =>
              weight (nWave + lane % 16) (kBase + (kSub * 16 + k)))
            value)
        (accumulator tile lane slot) := by
  refine foldl_see (fun state : Nat → Nat → Nat → Accumulator => state tile lane slot)
    ?_ accumulator
  intro state kSub inBlock
  have kSubInside := List.mem_range.mp inBlock
  have multiplied :=
    wmmaMma_eq unit
      (fun axis => wmmaLoadARow memory (rowAt tile axis + (kBase + kSub * 16)))
      (fun axis =>
        wmmaLoadBFromLds slab (kSub * 16 * shape.nTile) shape.nTile (nWave + axis))
      (state tile) laneInside slotInside
  refine multiplied.trans ?_
  have row : wmmaLoadARow memory
      (rowAt tile (2 * slot + lane / 16) + (kBase + kSub * 16)) =
        (List.range 16).map fun k =>
          memory (rowAt tile (2 * slot + lane / 16) + (kBase + (kSub * 16 + k))) := by
    refine List.map_congr_left fun k _ => ?_
    rw [Nat.add_assoc, Nat.add_assoc kBase]
  have column : wmmaLoadBFromLds slab (kSub * 16 * shape.nTile) shape.nTile
      (nWave + lane % 16) =
        (List.range 16).map fun k =>
          weight (nWave + lane % 16) (kBase + (kSub * 16 + k)) := by
    refine List.map_congr_left fun k inFragment => ?_
    have kInside := List.mem_range.mp inFragment
    rw [← filled (kSub * 16 + k) (nWave + lane % 16) (by omega) (by omega), Nat.add_mul,
      Nat.add_assoc]
  rw [row, column]

/-- The `k_base` loop takes 64 columns at a time. -/
theorem strided_blocks
    {K : Nat}
    (blocks : K % 64 = 0) :
    strided K 64 0 = (List.range (K / 64)).map fun block => block * 64 := by
  have turns : (K - 0 + (64 - 1)) / 64 = K / 64 := by omega
  rw [strided, turns]
  refine List.ext_getElem (by simp) fun block _ _ => ?_
  rw [List.getElem_range', List.getElem_map, List.getElem_range]
  omega

/-- The sixteens of a number of 64s, in the order of the two loops. -/
theorem foldl_sixteens
    {Value : Type}
    (blocks : Nat)
    (step : Value → Nat → Value)
    (value : Value) :
    (List.range blocks).foldl
        (fun value block =>
          (List.range 4).foldl (fun value kSub => step value (block * 4 + kSub)) value)
        value =
      (List.range (blocks * 4)).foldl step value := by
  have flat := range_flatMap_range blocks 4 fun index => [index]
  rw [List.flatMap_singleton'] at flat
  rw [← flat, List.foldl_flatMap]
  rfl

/--
A wave's product, element by element: slot `i` of lane `t` holds the product of the row
of that slot and the lane's column, over every column once.
-/
theorem product_eq
    (dequantize : Option Int → Option Scale → Operand)
    (matrix : SourceMatrix Scale)
    (valid : ValidSwizzle shape.N shape.K shape.cfg)
    (fits : shape.N * shape.K ≤ 2 ^ 41)
    (blocks : shape.K % 64 = 0)
    {nBase nWave : Nat}
    (rowsInside : nBase + shape.nTile ≤ shape.N)
    (waveInside : nWave + 16 ≤ shape.nTile)
    (shared : Nat → Operand)
    (tile : Nat)
    {lane slot : Nat}
    (laneInside : lane < 32)
    (slotInside : slot < 8) :
    product unit dequantize shape (matrix.swizzled shape) memory
        (fun tile lane => rowAt tile (wmmaLaneAxis lane)) nBase nWave shared tile lane
        slot =
      rowColumn unit (fun k => memory (rowAt tile (2 * slot + lane / 16) + k))
        (matrix.weight dequantize shape.K (nBase + (nWave + lane % 16))) shape.K := by
  have sixteens : shape.K / 16 = shape.K / 64 * 4 := by omega
  rw [rowColumn, sixteens, ← foldl_sixteens, product, strided_blocks blocks, List.foldl_map]
  refine foldl_see
    (fun state : ProductState Operand Accumulator => state.accumulator tile lane slot) ?_ _
  intro state block inLoop
  have blockInside := List.mem_range.mp inLoop
  have columnsInside : block * 64 + 64 ≤ shape.K := by omega
  have filled : ∀ k column, k < 64 → column < shape.nTile →
      fillSlab (slabStores dequantize shape (matrix.swizzled shape) nBase (block * 64))
          state.slab (k * shape.nTile + column) =
        matrix.weight dequantize shape.K (nBase + column) (block * 64 + k) :=
    fun k column kInside columnInside =>
      fillSlab_slabStores dequantize shape matrix valid fits rowsInside columnsInside
        (Nat.mul_mod_left block 64) state.slab kInside columnInside
  refine (multiplyBlock_eq unit shape memory rowAt
    (fun column => matrix.weight dequantize shape.K (nBase + column)) filled
    waveInside state.accumulator laneInside slotInside).trans ?_
  congr 1
  funext value kSub
  have columns : ∀ k, block * 64 + (kSub * 16 + k) = (block * 4 + kSub) * 16 + k := by
    intro k
    omega
  simp only [columns]

end Product

end Aeon.Rdna3
