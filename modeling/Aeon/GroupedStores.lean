import Aeon.GroupedSlab

namespace Aeon.Rdna3

open Aeon.BlockReduction (strided mem_strided)
open Aeon.Layout (range_flatMap_range range_flatMap_if flatMap_comm flatMap_map_comm)
open Aeon.SwizzledW4A16

/-!
# Each output is stored once

The store loops of a launch, over its blocks, threads and windows, store each row a group
has and each column of the output exactly once, with the product of that row and that
column; and every row a lane reads is one the group has.
-/

section Loops

variable {Value : Type} (shape : GroupedShape)

/-- The rows that the store loop of a lane of one parity reaches. -/
def parityRows (count parity : Nat) : List Nat :=
  (strided count shape.mWindow 0).flatMap fun window =>
    (List.range shape.mtiles).flatMap fun tile =>
      (List.range 8).flatMap fun slot =>
        if window + tile * 16 + 2 * slot + parity < count then
          [window + tile * 16 + 2 * slot + parity]
        else []

/-- The windows begin at the multiples of the window's rows. -/
theorem strided_windows
    (count : Nat)
    (positive : 0 < shape.mtiles) :
    ∃ windows,
      strided count shape.mWindow 0 =
          (List.range windows).map (fun window => window * shape.mWindow) ∧
        count ≤ windows * shape.mWindow := by
  have window : 0 < shape.mWindow := by
    rw [GroupedShape.mWindow]
    omega
  refine ⟨(count - 0 + (shape.mWindow - 1)) / shape.mWindow, ?_, ?_⟩
  · rw [strided]
    refine List.ext_getElem (by simp) fun index _ _ => ?_
    rw [List.getElem_range', List.getElem_map, List.getElem_range, Nat.zero_add,
      Nat.mul_comm]
  · have rounded := Nat.div_add_mod' (count - 0 + (shape.mWindow - 1)) shape.mWindow
    have rest := Nat.mod_lt (count - 0 + (shape.mWindow - 1)) window
    omega

/-- The lanes of both parities reach every row of the group once. -/
theorem parityRows_perm
    (count : Nat)
    (positive : 0 < shape.mtiles) :
    ((List.range 2).flatMap (parityRows shape count)).Perm (List.range count) := by
  obtain ⟨windows, listed, enough⟩ := strided_windows shape count positive
  -- The loop over the parities is moved inside the others.
  have inward :
      ((List.range 2).flatMap (parityRows shape count)).Perm
        ((List.range windows).flatMap fun window =>
          (List.range shape.mtiles).flatMap fun tile =>
            (List.range 8).flatMap fun slot =>
              (List.range 2).flatMap fun parity =>
                if window * shape.mWindow + tile * 16 + 2 * slot + parity < count then
                  [window * shape.mWindow + tile * 16 + 2 * slot + parity]
                else []) := by
    unfold parityRows
    simp only [listed, List.flatMap_map]
    refine (flatMap_comm _ _ _).trans (List.Perm.flatMap_left _ fun window _ => ?_)
    refine (flatMap_comm _ _ _).trans (List.Perm.flatMap_left _ fun tile _ => ?_)
    exact flatMap_comm _ _ _
  refine inward.trans (List.Perm.of_eq ?_)
  have enoughRows : count ≤ windows * shape.mtiles * 8 * 2 := by
    rw [GroupedShape.mWindow] at enough
    have regroup : windows * (shape.mtiles * 16) = windows * shape.mtiles * 8 * 2 := by
      ring
    omega
  have single := range_flatMap_if enoughRows id
  rw [List.map_id] at single
  rw [← single, ← range_flatMap_range, ← range_flatMap_range, ← range_flatMap_range]
  refine List.flatMap_congr fun window _ => List.flatMap_congr fun tile _ =>
    List.flatMap_congr fun slot _ => List.flatMap_congr fun parity _ => ?_
  have row : window * shape.mWindow + tile * 16 + 2 * slot + parity =
      ((window * shape.mtiles + tile) * 8 + slot) * 2 + parity := by
    rw [GroupedShape.mWindow]
    ring
  rw [row]
  rfl

theorem windowStores_eq
    {count nBase window wave parity axis : Nat}
    {emit : (tile slot row column : Nat) → Nat × Value}
    {item : (row column : Nat) → Nat × Value}
    (parityInside : parity < 2)
    (axisInside : axis < 16)
    (emits : ∀ tile slot, tile < shape.mtiles → slot < 8 →
      window + tile * 16 + 2 * slot + parity < count →
      emit tile slot (window + tile * 16 + 2 * slot + parity) (nBase + wave * 16 + axis) =
        item (window + tile * 16 + 2 * slot + parity) (nBase + wave * 16 + axis)) :
    windowStores shape count nBase (wave * 32 + (parity * 16 + axis)) window emit =
      ((List.range shape.mtiles).flatMap fun tile =>
        (List.range 8).flatMap fun slot =>
          if window + tile * 16 + 2 * slot + parity < count then
            [window + tile * 16 + 2 * slot + parity]
          else []).map fun row => item row (nBase + wave * 16 + axis) := by
  have lane : (wave * 32 + (parity * 16 + axis)) &&& 31 = parity * 16 + axis := by
    rw [show (31 : Nat) = 2 ^ 5 - 1 by decide, Nat.and_two_pow_sub_one_eq_mod]
    omega
  have waveOf : (wave * 32 + (parity * 16 + axis)) >>> 5 = wave := by
    rw [Nat.shiftRight_eq_div_pow]
    omega
  have parityOf : wmmaLaneParity (parity * 16 + axis) = parity := by
    rw [wmmaLaneParity_eq]
    omega
  have axisOf : wmmaLaneAxis (parity * 16 + axis) = axis := by
    rw [wmmaLaneAxis_eq]
    omega
  simp only [windowStores, lane, waveOf, parityOf, axisOf, List.map_flatMap]
  refine List.flatMap_congr fun tile tileMember => List.flatMap_congr fun slot slotMember =>
    ?_
  split
  next inGroup =>
    rw [emits tile slot (List.mem_range.mp tileMember) (List.mem_range.mp slotMember) inGroup]
    rfl
  next => rfl

theorem expertStores_perm
    {count : Nat}
    {emit : (block thread window tile slot row column : Nat) → Nat × Value}
    {item : (row column : Nat) → Nat × Value}
    (mtilesPositive : 0 < shape.mtiles)
    (columns : shape.N % shape.nTile = 0)
    (emits : ∀ block wave parity axis window tile slot,
      block < shape.N / shape.nTile → wave < shape.waves → parity < 2 → axis < 16 →
      tile < shape.mtiles → slot < 8 →
      window + tile * 16 + 2 * slot + parity < count →
        emit block (wave * 32 + (parity * 16 + axis)) window tile slot
            (window + tile * 16 + 2 * slot + parity)
            (block * shape.nTile + wave * 16 + axis) =
          item (window + tile * 16 + 2 * slot + parity)
            (block * shape.nTile + wave * 16 + axis)) :
    ((List.range (shape.N / shape.nTile)).flatMap fun block =>
        (List.range (shape.waves * 32)).flatMap fun thread =>
          (strided count shape.mWindow 0).flatMap fun window =>
            windowStores shape count (block * shape.nTile) thread window
              (emit block thread window)).Perm
      ((List.range count).flatMap fun row =>
        (List.range shape.N).map fun column => item row column) := by
  -- By column: the two parities of a wave's lanes together reach every row.
  have byColumn :
      ((List.range (shape.N / shape.nTile)).flatMap fun block =>
          (List.range (shape.waves * 32)).flatMap fun thread =>
            (strided count shape.mWindow 0).flatMap fun window =>
              windowStores shape count (block * shape.nTile) thread window
                (emit block thread window)).Perm
        ((List.range (shape.N / shape.nTile)).flatMap fun block =>
          (List.range shape.waves).flatMap fun wave =>
            (List.range 16).flatMap fun axis =>
              (List.range count).map fun row =>
                item row (block * shape.nTile + wave * 16 + axis)) := by
    refine List.Perm.flatMap_left _ fun block blockMember => ?_
    rw [← range_flatMap_range shape.waves 32]
    refine List.Perm.flatMap_left _ fun wave waveMember => ?_
    rw [show (32 : Nat) = 2 * 16 from rfl, ← range_flatMap_range 2 16]
    refine (flatMap_comm _ _ _).trans (List.Perm.flatMap_left _ fun axis axisMember => ?_)
    have rows := (parityRows_perm shape count mtilesPositive).map fun row =>
      item row (block * shape.nTile + wave * 16 + axis)
    refine (List.Perm.of_eq ?_).trans rows
    rw [List.map_flatMap]
    refine List.flatMap_congr fun parity parityMember => ?_
    rw [parityRows, List.map_flatMap]
    refine List.flatMap_congr fun window _ => ?_
    exact windowStores_eq shape (List.mem_range.mp parityMember)
      (List.mem_range.mp axisMember) fun tile slot tileInside slotInside =>
        emits block wave parity axis window tile slot (List.mem_range.mp blockMember)
          (List.mem_range.mp waveMember) (List.mem_range.mp parityMember)
          (List.mem_range.mp axisMember) tileInside slotInside
  refine byColumn.trans ?_
  have total : shape.N / shape.nTile * shape.waves * 16 = shape.N := by
    rw [Nat.mul_assoc]
    exact Nat.div_mul_cancel (Nat.dvd_of_mod_eq_zero columns)
  have flat :
      ((List.range (shape.N / shape.nTile)).flatMap fun block =>
          (List.range shape.waves).flatMap fun wave =>
            (List.range 16).flatMap fun axis =>
              (List.range count).map fun row =>
                item row (block * shape.nTile + wave * 16 + axis)) =
        (List.range shape.N).flatMap fun column =>
          (List.range count).map fun row => item row column := by
    conv_rhs => rw [← total]
    rw [← range_flatMap_range, ← range_flatMap_range]
    refine List.flatMap_congr fun block _ => List.flatMap_congr fun wave _ =>
      List.flatMap_congr fun axis _ => ?_
    have column : block * shape.nTile + wave * 16 + axis =
        (block * shape.waves + wave) * 16 + axis := by
      rw [GroupedShape.nTile]
      ring
    rw [column]
  rw [flat]
  exact flatMap_map_comm _ _ _

end Loops

section Kernels

variable {Scale Operand Accumulator : Type}

/-- The elements of an expert's output, row by row. -/
def groupOutputs
    {Value : Type}
    (shape : GroupedShape)
    (table : ExpertOffsets)
    (item : (expert row column : Nat) → Nat × Value) : List (Nat × Value) :=
  (List.range table.expertCount).flatMap fun expert =>
    (List.range (table.count expert)).flatMap fun row =>
      (List.range shape.N).map fun column => item expert row column

/-- A launch whose matrices are the experts' own, swizzled. -/
def GateUpLaunch.ofSources
    (shape : GroupedShape)
    (launch : GateUpLaunch Scale Operand Accumulator)
    (gate up : Nat → SourceMatrix Scale) : GateUpLaunch Scale Operand Accumulator :=
  { launch with
    gate := fun expert => (gate expert).swizzled shape
    up := fun expert => (up expert).swizzled shape }

/-- A launch whose matrices are the experts' own, swizzled. -/
def DownLaunch.ofSources
    {Weight Output : Type}
    (shape : GroupedShape)
    (launch : DownLaunch Scale Operand Accumulator Weight Output)
    (down : Nat → SourceMatrix Scale) : DownLaunch Scale Operand Accumulator Weight Output :=
  { launch with down := fun expert => (down expert).swizzled shape }

variable
    (unit : MatrixUnit Operand Accumulator)
    (dequantize : Option Int → Option Scale → Operand)
    (shape : GroupedShape)
    (table : ExpertOffsets)

/-- What the gate/up kernel leaves for a row of a group and an output column. -/
def gateUpOutput
    (launch : GateUpLaunch Scale Operand Accumulator)
    (gate up : Nat → SourceMatrix Scale)
    (expert row column : Nat) : Nat × Operand :=
  let activations := fun k =>
    launch.activation
      (launch.tokenIndices (table.first expert + row) * launch.activationStride + k)
  ((expert * launch.hiddenTokens + row) * shape.N + column,
    launch.epilogue
      (rowColumn unit activations ((gate expert).weight dequantize shape.K column) shape.K)
      (rowColumn unit activations ((up expert).weight dequantize shape.K column) shape.K))

/-- What the down kernel leaves for a row of a group and an output column. -/
def downOutput
    {Weight Output : Type}
    (launch : DownLaunch Scale Operand Accumulator Weight Output)
    (down : Nat → SourceMatrix Scale)
    (expert row column : Nat) : Nat × Output :=
  let hidden := fun k =>
    launch.expertHidden ((expert * launch.hiddenTokens + row) * shape.K + k)
  (launch.drawIndices (table.first expert + row) * shape.N + column,
    launch.epilogue
      (rowColumn unit hidden ((down expert).weight dequantize shape.K column) shape.K)
      (launch.drawWeights (table.first expert + row)))

theorem block_inside
    {block : Nat}
    (inside : block < shape.N / shape.nTile) :
    block * shape.nTile + shape.nTile ≤ shape.N :=
  calc
    block * shape.nTile + shape.nTile = (block + 1) * shape.nTile :=
      (Nat.succ_mul _ _).symm
    _ ≤ shape.N / shape.nTile * shape.nTile := Nat.mul_le_mul_right _ inside
    _ ≤ shape.N := Nat.div_mul_le_self _ _

theorem lane_row
    (wave : Nat)
    {parity axis : Nat}
    (parityInside : parity < 2)
    (axisInside : axis < 16) :
    (wave * 32 + (parity * 16 + axis)) >>> 5 = wave ∧
      (wave * 32 + (parity * 16 + axis)) &&& 31 = parity * 16 + axis ∧
      (parity * 16 + axis) / 16 = parity ∧ (parity * 16 + axis) % 16 = axis := by
  rw [show (31 : Nat) = 2 ^ 5 - 1 by decide, Nat.and_two_pow_sub_one_eq_mod,
    Nat.shiftRight_eq_div_pow]
  omega

/-- The shapes of a launch over swizzled matrices. -/
structure GroupedShape.Valid (shape : GroupedShape) : Prop where
  wavesPositive : 0 < shape.waves
  mtilesPositive : 0 < shape.mtiles
  columns : shape.N % shape.nTile = 0
  blocks : shape.K % 64 = 0
  layout : ValidSwizzle shape.N shape.K shape.cfg

variable {unit dequantize shape table}

theorem gateUp_stores_perm
    (valid : shape.Valid)
    (fits : shape.N * shape.K ≤ 2 ^ 41)
    (launch : GateUpLaunch Scale Operand Accumulator)
    (gate up : Nat → SourceMatrix Scale) :
    ((launch.ofSources shape gate up).stores unit dequantize shape table).Perm
      (groupOutputs shape table
        (gateUpOutput unit dequantize shape table launch gate up)) := by
  refine List.Perm.flatMap_left _ fun expert _ => ?_
  refine expertStores_perm shape valid.mtilesPositive valid.columns ?_
  intro block wave parity axis window tile slot blockInside waveInside parityInside
    axisInside _ slotInside inGroup
  obtain ⟨waveOf, laneOf, parityOf, axisOf⟩ := lane_row wave parityInside axisInside
  have waveColumns : wave * 16 + 16 ≤ shape.nTile := by
    rw [GroupedShape.nTile]
    omega
  have products : ∀ (matrix : SourceMatrix Scale) (shared : Nat → Operand),
      product unit dequantize shape (matrix.swizzled shape) launch.activation
          (launch.rowPtr table expert window) (block * shape.nTile) (wave * 16) shared tile
          (parity * 16 + axis) slot =
        rowColumn unit
          (fun k => launch.activation
            (launch.tokenIndices
                (table.first expert + (window + tile * 16 + 2 * slot + parity)) *
              launch.activationStride + k))
          (matrix.weight dequantize shape.K (block * shape.nTile + wave * 16 + axis))
          shape.K := by
    intro matrix shared
    have element :=
      product_eq unit shape launch.activation
        (fun tile axis =>
          (if window + tile * 16 + axis < table.count expert then
            launch.tokenIndices (table.first expert + (window + tile * 16 + axis))
          else launch.padRow table expert) * launch.activationStride)
        dequantize matrix valid.layout fits valid.blocks
        (block_inside shape blockInside) waveColumns shared tile
        (show parity * 16 + axis < 32 by omega) slotInside
    rw [parityOf, axisOf, ← Nat.add_assoc (window + tile * 16), if_pos inGroup,
      ← Nat.add_assoc (block * shape.nTile)] at element
    exact element
  simp only [gateUpOutput, waveOf, laneOf]
  exact Prod.ext rfl (congrArg₂ launch.epilogue (products _ _) (products _ _))

theorem down_stores_perm
    {Weight Output : Type}
    (valid : shape.Valid)
    (fits : shape.N * shape.K ≤ 2 ^ 41)
    (launch : DownLaunch Scale Operand Accumulator Weight Output)
    (down : Nat → SourceMatrix Scale) :
    ((launch.ofSources shape down).stores unit dequantize shape table).Perm
      (groupOutputs shape table (downOutput unit dequantize shape table launch down)) := by
  refine List.Perm.flatMap_left _ fun expert _ => ?_
  refine expertStores_perm shape valid.mtilesPositive valid.columns ?_
  intro block wave parity axis window tile slot blockInside waveInside parityInside
    axisInside _ slotInside inGroup
  obtain ⟨waveOf, laneOf, parityOf, axisOf⟩ := lane_row wave parityInside axisInside
  have waveColumns : wave * 16 + 16 ≤ shape.nTile := by
    rw [GroupedShape.nTile]
    omega
  have element :=
    product_eq unit shape launch.expertHidden
      (fun tile axis =>
        (expert * launch.hiddenTokens +
          if window + tile * 16 + axis < table.count expert then window + tile * 16 + axis
          else 0) * shape.K)
      dequantize (down expert) valid.layout fits valid.blocks
      (block_inside shape blockInside) waveColumns (launch.shared expert block window) tile
      (show parity * 16 + axis < 32 by omega) slotInside
  rw [parityOf, axisOf, ← Nat.add_assoc (window + tile * 16), if_pos inGroup,
    ← Nat.add_assoc (block * shape.nTile)] at element
  simp only [downOutput, waveOf, laneOf]
  exact Prod.ext rfl (congrArg (launch.epilogue · _) element)

/-- A window of the row loop begins at a row of the group. -/
theorem window_inside
    (valid : shape.Valid)
    {count window : Nat}
    (entered : window ∈ strided count shape.mWindow 0) :
    window < count := by
  have positive : 0 < shape.mWindow := Nat.mul_pos valid.mtilesPositive (by decide)
  exact ((mem_strided positive).mp entered).2.1

theorem gateUp_indexReads
    (valid : shape.Valid)
    {expert window lane : Nat}
    (entered : window ∈ strided (table.count expert) shape.mWindow 0) :
    ∀ position, position ∈ GateUpLaunch.indexReads shape table expert window lane →
      ∃ row, row < table.count expert ∧ position = table.first expert + row := by
  have inside := window_inside valid entered
  intro position read
  rw [GateUpLaunch.indexReads, if_pos (by omega), List.mem_append, List.mem_singleton,
    List.mem_flatMap] at read
  rcases read with rfl | ⟨tile, -, inTile⟩
  · exact ⟨0, by omega, rfl⟩
  · dsimp only at inTile
    split at inTile
    next inGroup => exact ⟨_, inGroup, List.mem_singleton.mp inTile⟩
    next => cases inTile

theorem gateUp_activationReads
    (valid : shape.Valid)
    (launch : GateUpLaunch Scale Operand Accumulator)
    {expert window lane : Nat}
    (entered : window ∈ strided (table.count expert) shape.mWindow 0) :
    ∀ read, read ∈ launch.activationReads shape table expert window lane →
      ∃ row, row < table.count expert ∧
        read = launch.tokenIndices (table.first expert + row) := by
  have inside := window_inside valid entered
  intro read member
  obtain ⟨tile, -, rfl⟩ := List.mem_map.mp member
  rw [GateUpLaunch.activationRow]
  split
  next inGroup => exact ⟨_, inGroup, rfl⟩
  next =>
    rw [GateUpLaunch.padRow, if_pos (by omega)]
    exact ⟨0, by omega, rfl⟩

theorem down_indexReads
    {expert window thread : Nat} :
    ∀ position, position ∈ DownLaunch.indexReads shape table expert window thread →
      ∃ row, row < table.count expert ∧ position = table.first expert + row := by
  intro position read
  rw [DownLaunch.indexReads, windowStores, List.mem_map] at read
  obtain ⟨store, stored, rfl⟩ := read
  obtain ⟨tile, -, inTile⟩ := List.mem_flatMap.mp stored
  obtain ⟨slot, -, inSlot⟩ := List.mem_flatMap.mp inTile
  dsimp only at inSlot
  split at inSlot
  next inGroup =>
    obtain rfl := List.mem_singleton.mp inSlot
    exact ⟨_, inGroup, rfl⟩
  next => cases inSlot

theorem down_hiddenReads
    {Weight Output : Type}
    (valid : shape.Valid)
    (launch : DownLaunch Scale Operand Accumulator Weight Output)
    {expert window lane : Nat}
    (entered : window ∈ strided (table.count expert) shape.mWindow 0) :
    ∀ read, read ∈ launch.hiddenReads shape table expert window lane →
      ∃ row, row < table.count expert ∧ read = expert * launch.hiddenTokens + row := by
  have inside := window_inside valid entered
  intro read member
  obtain ⟨tile, -, rfl⟩ := List.mem_map.mp member
  rw [DownLaunch.hiddenRow]
  split
  next inGroup => exact ⟨_, inGroup, rfl⟩
  next => exact ⟨0, by omega, rfl⟩

end Kernels

end Aeon.Rdna3
