import Aeon.BlockReduction
import Aeon.SwizzledReaders
import Aeon.WmmaTile

namespace Aeon.Rdna3

open Aeon.BlockReduction (strided)
open Aeon.Layout (Buffer)
open Aeon.SwizzledW4A16 (SwizzleCfg groupedDequantSlab)

/-!
# The grouped kernels

`moe_grouped_gate_up_kernel` and `moe_grouped_down_kernel` with the swizzled W4A16 feed:
a block of waves fills a slab of shared memory with dequantized weights, each wave
multiplies its 16 columns of it with the rows of a window, and the store loop writes the
rows the group really has.  Indices are natural numbers but for the cell number of the
feed (`GroupedExact.counters` bounds the window counter); the matrix unit, the dequantized
product and the epilogues are parameters.
-/

/-- The template arguments, the layout and the shape of a launch. -/
structure GroupedShape where
  waves : Nat
  mtiles : Nat
  cfg : SwizzleCfg
  N : Nat
  K : Nat

namespace GroupedShape

variable (shape : GroupedShape)

/-- `kNTile`. -/
def nTile : Nat :=
  shape.waves * 16

/-- `kMWindow`. -/
def mWindow : Nat :=
  shape.mtiles * 16

/-- `iterations`. -/
def iterations : Nat :=
  shape.K / 32 / shape.cfg.lpr

/-- The largest number of rows that whole windows below `2 ^ 31` hold. -/
def rowLimit : Nat :=
  (2 ^ 31 - 1) / shape.mWindow * shape.mWindow

end GroupedShape

/-- One expert's matrix as the feed addresses it. -/
structure PackedMatrix (Scale : Type) where
  packed : Buffer (BitVec 32)
  scale : Buffer Scale

/-- The permutation's offsets of the experts of a launch. -/
structure ExpertOffsets where
  expertCount : Nat
  offsets : Nat → Nat

namespace ExpertOffsets

variable (table : ExpertOffsets) (expert : Nat)

/-- `first`. -/
def first : Nat :=
  table.offsets expert

/-- `count`. -/
def count : Nat :=
  table.offsets (expert + 1) - table.offsets expert

/-- Some group of the launch has rows, so that a block of it fills slabs. -/
def Busy : Prop :=
  ∃ expert < table.expertCount, 0 < table.count expert

variable {table expert}

theorem count_eq_zero
    (idle : ¬ table.Busy)
    (inside : expert < table.expertCount) :
    table.count expert = 0 :=
  Nat.eq_zero_of_not_pos fun rows => idle ⟨expert, inside, rows⟩

end ExpertOffsets

section Slab

variable {Scale Operand : Type}

/-- The stores of a cooperative slab fill, thread after thread. -/
def slabStores
    (dequantize : Option Int → Option Scale → Operand)
    (shape : GroupedShape)
    (weights : PackedMatrix Scale)
    (nBase kBase : Nat) : List (Nat × Operand) :=
  (List.range (shape.waves * 32)).flatMap fun thread =>
    (groupedDequantSlab shape.cfg weights.packed weights.scale shape.nTile nBase kBase
      shape.iterations thread).map fun loaded =>
      (loaded.place, dequantize loaded.weight loaded.scale)

/-- The shared memory after some stores. -/
def fillSlab
    (stores : List (Nat × Operand))
    (before : Nat → Operand) : Nat → Operand :=
  stores.foldl (fun slab store => Function.update slab store.1 store.2) before

end Slab

section Product

variable {Scale Operand Accumulator : Type}

/-- The shared memory and a wave's accumulators, by tile, lane and slot. -/
structure ProductState (Operand Accumulator : Type) where
  slab : Nat → Operand
  accumulator : Nat → Nat → Nat → Accumulator

/-- The `k_sub` loop over one filled slab. -/
def multiplyBlock
    (unit : MatrixUnit Operand Accumulator)
    (shape : GroupedShape)
    (memory : Nat → Operand)
    (rowPtr : Nat → Nat → Nat)
    (nWave kBase : Nat)
    (slab : Nat → Operand)
    (accumulator : Nat → Nat → Nat → Accumulator) : Nat → Nat → Nat → Accumulator :=
  (List.range 4).foldl
    (fun accumulator kSub => fun tile =>
      wmmaMma unit
        (fun lane => wmmaLoadARow memory (rowPtr tile lane + (kBase + kSub * 16)))
        (fun lane =>
          wmmaLoadBFromLds slab (kSub * 16 * shape.nTile) shape.nTile
            (nWave + wmmaLaneAxis lane))
        (accumulator tile))
    accumulator

/-- One round of the `k_base` loop: fill the slab, then multiply with it. -/
def productStep
    (unit : MatrixUnit Operand Accumulator)
    (dequantize : Option Int → Option Scale → Operand)
    (shape : GroupedShape)
    (weights : PackedMatrix Scale)
    (memory : Nat → Operand)
    (rowPtr : Nat → Nat → Nat)
    (nBase nWave : Nat)
    (state : ProductState Operand Accumulator)
    (kBase : Nat) : ProductState Operand Accumulator :=
  let slab := fillSlab (slabStores dequantize shape weights nBase kBase) state.slab
  { slab := slab
    accumulator :=
      multiplyBlock unit shape memory rowPtr nWave kBase slab state.accumulator }

/-- A wave's accumulators after the `k_base` loop of one window. -/
def product
    (unit : MatrixUnit Operand Accumulator)
    (dequantize : Option Int → Option Scale → Operand)
    (shape : GroupedShape)
    (weights : PackedMatrix Scale)
    (memory : Nat → Operand)
    (rowPtr : Nat → Nat → Nat)
    (nBase nWave : Nat)
    (shared : Nat → Operand) : Nat → Nat → Nat → Accumulator :=
  ((strided shape.K 64 0).foldl
    (productStep unit dequantize shape weights memory rowPtr nBase nWave)
    ⟨shared, fun _ => wmmaZeroAccumulator unit⟩).accumulator

end Product

/-- The store loop of a thread at the end of a window. -/
def windowStores
    {Value : Type}
    (shape : GroupedShape)
    (count nBase thread window : Nat)
    (emit : (tile slot row column : Nat) → Nat × Value) : List (Nat × Value) :=
  let wave := thread >>> 5
  let lane := thread &&& 31
  (List.range shape.mtiles).flatMap fun tile =>
    (List.range 8).flatMap fun slot =>
      let row := window + tile * 16 + 2 * slot + wmmaLaneParity lane
      if row < count then
        [emit tile slot row (nBase + wave * 16 + wmmaLaneAxis lane)]
      else []

/-- All stores of a launch: its blocks, their threads and a thread's windows. -/
def launchStores
    {Value : Type}
    (shape : GroupedShape)
    (table : ExpertOffsets)
    (emit : (expert block thread window tile slot row column : Nat) → Nat × Value) :
    List (Nat × Value) :=
  (List.range table.expertCount).flatMap fun expert =>
    (List.range (shape.N / shape.nTile)).flatMap fun block =>
      (List.range (shape.waves * 32)).flatMap fun thread =>
        (strided (table.count expert) shape.mWindow 0).flatMap fun window =>
          windowStores shape (table.count expert) (block * shape.nTile) thread window
            (emit expert block thread window)

section Kernels

variable {Scale Operand Accumulator : Type}

/-- What a launch of the gate/up kernel is given. -/
structure GateUpLaunch (Scale Operand Accumulator : Type) where
  activation : Nat → Operand
  tokenIndices : Nat → Nat
  gate : Nat → PackedMatrix Scale
  up : Nat → PackedMatrix Scale
  hiddenTokens : Nat
  activationStride : Nat
  epilogue : Accumulator → Accumulator → Operand
  /-- What shared memory holds when a block begins a window. -/
  gateShared : (expert block window : Nat) → Nat → Operand
  upShared : (expert block window : Nat) → Nat → Operand

namespace GateUpLaunch

variable
    (unit : MatrixUnit Operand Accumulator)
    (dequantize : Option Int → Option Scale → Operand)
    (shape : GroupedShape)
    (table : ExpertOffsets)
    (launch : GateUpLaunch Scale Operand Accumulator)

/-- `pad_row`. -/
def padRow (expert : Nat) : Nat :=
  if 0 < table.count expert then launch.tokenIndices (table.first expert) else 0

/-- `activation_row`. -/
def activationRow (expert window tile lane : Nat) : Nat :=
  let rowInGroup := window + tile * 16 + wmmaLaneAxis lane
  if rowInGroup < table.count expert then
    launch.tokenIndices (table.first expert + rowInGroup)
  else
    launch.padRow table expert

/-- `row_ptr`. -/
def rowPtr (expert window tile lane : Nat) : Nat :=
  launch.activationRow table expert window tile lane * launch.activationStride

/-- The stores of `moe_grouped_gate_up_kernel`. -/
def stores : List (Nat × Operand) :=
  launchStores shape table fun expert block thread window tile slot row column =>
    let product := fun weights shared =>
      product unit dequantize shape weights launch.activation
        (launch.rowPtr table expert window) (block * shape.nTile) ((thread >>> 5) * 16)
        shared tile (thread &&& 31) slot
    ((expert * launch.hiddenTokens + row) * shape.N + column,
      launch.epilogue
        (product (launch.gate expert) (launch.gateShared expert block window))
        (product (launch.up expert) (launch.upShared expert block window)))

/-- The positions of `token_indices` that a lane reads for a window. -/
def indexReads (expert window lane : Nat) : List Nat :=
  (if 0 < table.count expert then [table.first expert] else []) ++
    (List.range shape.mtiles).flatMap fun tile =>
      let rowInGroup := window + tile * 16 + wmmaLaneAxis lane
      if rowInGroup < table.count expert then [table.first expert + rowInGroup] else []

/-- The rows of `activation` that a lane reads for a window. -/
def activationReads (expert window lane : Nat) : List Nat :=
  (List.range shape.mtiles).map fun tile =>
    launch.activationRow table expert window tile lane

end GateUpLaunch

/-- What a launch of the down kernel is given. -/
structure DownLaunch (Scale Operand Accumulator Weight Output : Type) where
  expertHidden : Nat → Operand
  drawIndices : Nat → Nat
  drawWeights : Nat → Weight
  down : Nat → PackedMatrix Scale
  hiddenTokens : Nat
  epilogue : Accumulator → Weight → Output
  /-- What shared memory holds when a block begins a window. -/
  shared : (expert block window : Nat) → Nat → Operand

namespace DownLaunch

variable
    {Weight Output : Type}
    (unit : MatrixUnit Operand Accumulator)
    (dequantize : Option Int → Option Scale → Operand)
    (shape : GroupedShape)
    (table : ExpertOffsets)
    (launch : DownLaunch Scale Operand Accumulator Weight Output)

/-- The row of the group whose hidden values a lane reads. -/
def hiddenRow (expert window tile lane : Nat) : Nat :=
  let rowInGroup := window + tile * 16 + wmmaLaneAxis lane
  if rowInGroup < table.count expert then rowInGroup else 0

/-- `row_ptr`. -/
def rowPtr (expert window tile lane : Nat) : Nat :=
  (expert * launch.hiddenTokens + hiddenRow table expert window tile lane) * shape.K

/-- The stores of `moe_grouped_down_kernel`. -/
def stores : List (Nat × Output) :=
  launchStores shape table fun expert block thread window tile slot row column =>
    let position := table.first expert + row
    (launch.drawIndices position * shape.N + column,
      launch.epilogue
        (product unit dequantize shape (launch.down expert) launch.expertHidden
          (launch.rowPtr shape table expert window) (block * shape.nTile)
          ((thread >>> 5) * 16) (launch.shared expert block window) tile (thread &&& 31)
          slot)
        (launch.drawWeights position))

/-- The positions of `draw_indices` and `draw_weights` that a thread reads. -/
def indexReads (expert window thread : Nat) : List Nat :=
  (windowStores shape (table.count expert) 0 thread window fun _ _ row _ =>
    (table.first expert + row, ())).map Prod.fst

/-- The rows of `expert_hidden` that a lane reads for a window. -/
def hiddenReads (expert window lane : Nat) : List Nat :=
  (List.range shape.mtiles).map fun tile =>
    expert * launch.hiddenTokens + hiddenRow table expert window tile lane

end DownLaunch

end Kernels

end Aeon.Rdna3
