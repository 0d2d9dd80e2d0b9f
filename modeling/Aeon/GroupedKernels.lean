import Aeon.GroupedStores

namespace Aeon.Rdna3

open Aeon.BlockReduction (strided mem_strided)
open Aeon.SwizzledW4A16

/-!
# When the grouped kernels are exact

The two kernels store each output once, from its own row and column, and read the group's
own rows only, as long as neither the feed's `int` cell number nor the `int` counter of
the window loop overflows.
-/

/-- What the grouped kernels do at a shape and a table of offsets, over every launch. -/
structure GroupedExact (shape : GroupedShape) (table : ExpertOffsets) : Prop where
  gateUpStores :
    ∀ (Scale Operand Accumulator : Type) (unit : MatrixUnit Operand Accumulator)
      (dequantize : Option Int → Option Scale → Operand)
      (launch : GateUpLaunch Scale Operand Accumulator) (gate up : Nat → SourceMatrix Scale),
      ((launch.ofSources shape gate up).stores unit dequantize shape table).Perm
        (groupOutputs shape table
          (gateUpOutput unit dequantize shape table launch gate up))
  downStores :
    ∀ (Scale Operand Accumulator Weight Output : Type)
      (unit : MatrixUnit Operand Accumulator)
      (dequantize : Option Int → Option Scale → Operand)
      (launch : DownLaunch Scale Operand Accumulator Weight Output)
      (down : Nat → SourceMatrix Scale),
      ((launch.ofSources shape down).stores unit dequantize shape table).Perm
        (groupOutputs shape table (downOutput unit dequantize shape table launch down))
  /-- A fill that runs writes its slab once, with its own weights. -/
  slabs :
    ∀ (Scale Operand : Type) (dequantize : Option Int → Option Scale → Operand)
      (matrix : SourceMatrix Scale) (block kBlock : Nat), table.Busy →
      block < shape.N / shape.nTile → kBlock < shape.K / 64 →
        (slabStores dequantize shape (matrix.swizzled shape) (block * shape.nTile)
            (kBlock * 64)).Perm
          (slabElements dequantize shape matrix (block * shape.nTile) (kBlock * 64))
  /-- `m_window += kMWindow` stays an `int`, and so does every row of the window. -/
  counters :
    ∀ expert < table.expertCount, ∀ window ∈ strided (table.count expert) shape.mWindow 0,
      window + shape.mWindow < 2 ^ 31
  indexReads :
    ∀ (expert window thread : Nat),
      window ∈ strided (table.count expert) shape.mWindow 0 →
        ∀ position,
          position ∈ GateUpLaunch.indexReads shape table expert window (thread &&& 31) ∨
              position ∈ DownLaunch.indexReads shape table expert window thread →
            ∃ row, row < table.count expert ∧ position = table.first expert + row
  activationReads :
    ∀ (Scale Operand Accumulator : Type)
      (launch : GateUpLaunch Scale Operand Accumulator) (expert window lane : Nat),
      window ∈ strided (table.count expert) shape.mWindow 0 →
        ∀ read, read ∈ launch.activationReads shape table expert window lane →
          ∃ row, row < table.count expert ∧
            read = launch.tokenIndices (table.first expert + row)
  hiddenReads :
    ∀ (Scale Operand Accumulator Weight Output : Type)
      (launch : DownLaunch Scale Operand Accumulator Weight Output)
      (expert window lane : Nat),
      window ∈ strided (table.count expert) shape.mWindow 0 →
        ∀ read, read ∈ launch.hiddenReads shape table expert window lane →
          ∃ row, row < table.count expert ∧ read = expert * launch.hiddenTokens + row

variable {shape : GroupedShape} {table : ExpertOffsets}

/-- A launch of empty groups stores nothing. -/
theorem launchStores_idle
    {Value : Type}
    (idle : ¬ table.Busy)
    (emit : (expert block thread window tile slot row column : Nat) → Nat × Value) :
    launchStores shape table emit = [] := by
  refine List.flatMap_eq_nil_iff.mpr fun expert listed => ?_
  have none : (shape.mWindow - 1) / shape.mWindow = 0 := by
    rw [Nat.div_eq_zero_iff]
    omega
  rw [table.count_eq_zero idle (List.mem_range.mp listed)]
  simp [strided, none]

theorem groupOutputs_idle
    {Value : Type}
    (idle : ¬ table.Busy)
    (item : (expert row column : Nat) → Nat × Value) :
    groupOutputs shape table item = [] := by
  refine List.flatMap_eq_nil_iff.mpr fun expert listed => ?_
  rw [table.count_eq_zero idle (List.mem_range.mp listed)]
  rfl

/-- The window counter stays an `int` exactly up to the last whole window below `2 ^ 31`. -/
theorem windows_fit_iff
    (positive : 0 < shape.mWindow)
    {count : Nat} :
    (∀ window ∈ strided count shape.mWindow 0, window + shape.mWindow < 2 ^ 31) ↔
      count ≤ shape.rowLimit := by
  have whole := Nat.div_mul_le_self (2 ^ 31 - 1) shape.mWindow
  rw [GroupedShape.rowLimit]
  constructor
  · intro fit
    by_contra large
    have next := Nat.lt_mul_div_succ (2 ^ 31 - 1) positive
    have last := fit ((2 ^ 31 - 1) / shape.mWindow * shape.mWindow)
      ((mem_strided positive).mpr ⟨Nat.zero_le _, by omega, by simp⟩)
    rw [Nat.mul_comm, Nat.succ_mul] at next
    omega
  · intro bounded window listed
    obtain ⟨-, inside, multiple⟩ := (mem_strided positive).mp listed
    obtain ⟨index, rfl⟩ := Nat.dvd_of_mod_eq_zero (by simpa using multiple)
    rw [Nat.mul_comm] at inside ⊢
    have below := Nat.lt_of_mul_lt_mul_right (inside.trans_le bounded)
    have step := Nat.mul_le_mul_right shape.mWindow below
    rw [Nat.succ_mul] at step
    omega

theorem groupedExact_of_fits
    (valid : shape.Valid)
    (fits : ∀ expert < table.expertCount, 0 < table.count expert →
      shape.N * shape.K ≤ 2 ^ 41 ∧ table.count expert ≤ shape.rowLimit) :
    GroupedExact shape table := by
  have busyFits : table.Busy → shape.N * shape.K ≤ 2 ^ 41 := by
    rintro ⟨expert, inside, rows⟩
    exact (fits expert inside rows).1
  constructor
  case gateUpStores =>
    intro _ _ _ _ _ launch gate up
    by_cases busy : table.Busy
    · exact gateUp_stores_perm valid (busyFits busy) launch gate up
    · rw [GateUpLaunch.stores, launchStores_idle busy, groupOutputs_idle busy]
  case downStores =>
    intro _ _ _ _ _ _ _ launch down
    by_cases busy : table.Busy
    · exact down_stores_perm valid (busyFits busy) launch down
    · rw [DownLaunch.stores, launchStores_idle busy, groupOutputs_idle busy]
  case slabs =>
    intro _ _ dequantize matrix block kBlock busy blockInside kInside
    exact slabStores_perm dequantize shape matrix valid.layout (busyFits busy)
      (block_inside shape blockInside) (by omega) (Nat.mul_mod_left kBlock 64)
  case counters =>
    intro expert inside
    refine (windows_fit_iff (Nat.mul_pos valid.mtilesPositive (by decide))).mpr ?_
    by_cases rows : 0 < table.count expert
    · exact (fits expert inside rows).2
    · omega
  case indexReads =>
    rintro _ _ _ entered position (gateUp | down)
    · exact gateUp_indexReads valid entered position gateUp
    · exact down_indexReads position down
  case activationReads =>
    exact fun _ _ _ launch _ _ _ entered => gateUp_activationReads valid launch entered
  case hiddenReads =>
    exact fun _ _ _ _ _ launch _ _ _ entered => down_hiddenReads valid launch entered

/-- The matrix of a shape whose nibbles and scales are all zero. -/
def zeroMatrix (shape : GroupedShape) : SourceMatrix (BitVec 16) :=
  { packed := List.replicate (shape.N * (shape.K / 8)) 0
    scale := List.replicate (shape.N * (shape.K / 32)) 0 }

theorem zeroMatrix_weight_ne_none
    (valid : shape.Valid)
    {row column : Nat}
    (rowInside : row < shape.N)
    (columnInside : column < shape.K) :
    (zeroMatrix shape).weight (fun weight _ => weight) shape.K row column ≠ none := by
  have blocks := valid.blocks
  have inside : row * (shape.K / 8) + column / 8 < shape.N * (shape.K / 8) :=
    Layout.digit_lt rowInside (by omega)
  rw [SourceMatrix.weight, sourceWeight, zeroMatrix,
    List.getElem?_eq_getElem (by rwa [List.length_replicate])]
  simp

theorem mem_unpackGroup_first
    {Scale : Type}
    (words : Nat → Option (BitVec 32))
    (scale : Option Scale)
    (place : Nat → Nat) :
    ⟨place 0, (words 0).bind fun raw => (unpack2 raw 0).1, scale⟩ ∈
      unpackGroup words scale place := by
  rw [unpackGroup, List.mem_flatMap]
  refine ⟨0, List.mem_range.mpr (by decide), List.mem_flatMap.mpr ⟨0, ?_, ?_⟩⟩
  · exact List.mem_range.mpr (by decide)
  · exact List.mem_cons_self

theorem mem_slabStores_overflow
    (valid : shape.Valid)
    {row group : Nat}
    (overflows :
      slabStorage shape.cfg shape.iterations row group = 2 ^ 64 - 2 ^ 36) :
    ∃ place,
      (place, none) ∈
        slabStores (fun weight (_ : Option (BitVec 16)) => weight) shape
          ((zeroMatrix shape).swizzled shape) (row / shape.nTile * shape.nTile)
          (group / 2 * 64) := by
  have tilePositive : 0 < shape.nTile := Nat.mul_pos valid.wavesPositive (by decide)
  have columnInside := Nat.mod_lt row tilePositive
  have threadRow : (row % shape.nTile * 2 + group % 2) >>> 1 = row % shape.nTile := by
    rw [Nat.shiftRight_eq_div_pow]
    omega
  have threadGroup : (row % shape.nTile * 2 + group % 2) &&& 1 = group % 2 := by
    rw [show (1 : Nat) = 2 ^ 1 - 1 by decide, Nat.and_two_pow_sub_one_eq_mod]
    omega
  have groupBack : group / 2 * 64 / 32 + group % 2 = group := by omega
  have inBlock : row % shape.nTile * 2 + group % 2 < shape.waves * 32 := by
    rw [GroupedShape.nTile] at columnInside ⊢
    omega
  have first :=
    mem_unpackGroup_first
      (loadU4 ((zeroMatrix shape).swizzled shape).packed (2 ^ 64 - 2 ^ 36))
      (((zeroMatrix shape).swizzled shape).scale (2 ^ 64 - 2 ^ 36))
      (fun k => group % 2 * 32 * shape.nTile + row % shape.nTile + k * shape.nTile)
  have unwritten :
      loadU4 ((zeroMatrix shape).swizzled shape).packed (2 ^ 64 - 2 ^ 36) 0 = none :=
    loadU4_unwritten (zeroMatrix shape).packed (zeroMatrix shape).scale valid.layout
  rw [unwritten] at first
  refine ⟨group % 2 * 32 * shape.nTile + row % shape.nTile + 0 * shape.nTile, ?_⟩
  refine List.mem_flatMap.mpr ⟨_, List.mem_range.mpr inBlock,
    List.mem_map.mpr
      ⟨⟨_, none, ((zeroMatrix shape).swizzled shape).scale (2 ^ 64 - 2 ^ 36)⟩, ?_, rfl⟩⟩
  rw [groupedDequantSlab]
  simp only [threadRow, threadGroup, groupBack, Nat.div_add_mod', overflows]
  exact first

/-- With more than `2 ^ 41` weights some fill stores a weight that is not its own. -/
theorem not_groupedExact
    (valid : shape.Valid)
    (busy : table.Busy)
    (large : 2 ^ 41 < shape.N * shape.K) :
    ¬ GroupedExact shape table := by
  intro exact
  obtain ⟨row, rowInside, group, groupInside, overflows⟩ :=
    slabStorage_overflow valid.layout large
  obtain ⟨place, stored⟩ := mem_slabStores_overflow valid overflows
  have blocks := valid.blocks
  have tilePositive : 0 < shape.nTile := Nat.mul_pos valid.wavesPositive (by decide)
  have rows := Nat.div_mul_cancel (Nat.dvd_of_mod_eq_zero valid.columns)
  have blockInside : row / shape.nTile < shape.N / shape.nTile := by
    rw [Nat.div_lt_iff_lt_mul tilePositive, rows]
    exact rowInside
  have listed :=
    (exact.slabs _ _ (fun weight (_ : Option (BitVec 16)) => weight) (zeroMatrix shape)
      (row / shape.nTile) (group / 2) busy blockInside (by omega)).mem_iff.mp stored
  obtain ⟨k, kMember, inRow⟩ := List.mem_flatMap.mp listed
  obtain ⟨column, columnMember, element⟩ := List.mem_map.mp inRow
  have kInside := List.mem_range.mp kMember
  have columnInside := List.mem_range.mp columnMember
  have within := block_inside shape blockInside
  exact zeroMatrix_weight_ne_none valid (by omega) (by omega)
    (congrArg Prod.snd element)

/--
At every shape of a swizzled matrix and every table of offsets, over every launch, the
grouped kernels store each output once with the product of its own row and column, fill
each slab once with its own weights and read only the group's rows, exactly when every
group with rows has a matrix of at most `2 ^ 41` weights and no more rows than fit the
counter of the window loop.
-/
theorem groupedExact_iff (valid : shape.Valid) :
    GroupedExact shape table ↔
      ∀ expert < table.expertCount, 0 < table.count expert →
        shape.N * shape.K ≤ 2 ^ 41 ∧ table.count expert ≤ shape.rowLimit := by
  constructor
  · intro exact expert inside rows
    refine ⟨?_, (windows_fit_iff (Nat.mul_pos valid.mtilesPositive (by decide))).mp
      (exact.counters expert inside)⟩
    by_contra large
    exact not_groupedExact valid ⟨expert, inside, rows⟩ (Nat.lt_of_not_le large) exact
  · exact groupedExact_of_fits valid

/-- Two experts of the model's gate matrices, one without rows and one with 65. -/
theorem groupedExact_gate :
    GroupedExact ⟨4, 4, kCfgW13, 2048, 4096⟩ ⟨2, fun expert => expert / 2 * 65⟩ := by
  refine (groupedExact_iff
    ⟨by decide, by decide, by decide, by decide, by constructor <;> decide⟩).mpr ?_
  intro expert inside rows
  obtain rfl | rfl : expert = 0 ∨ expert = 1 := by
    change expert < 2 at inside
    omega
  · exact ⟨by decide, by decide⟩
  · exact ⟨by decide, by decide⟩

/-- A square of `2 ^ 42` weights: a fill reads outside the matrix. -/
theorem square_not_groupedExact :
    ¬ GroupedExact ⟨4, 4, kCfgW13, 2 ^ 21, 2 ^ 21⟩ ⟨1, id⟩ :=
  not_groupedExact
    ⟨by decide, by decide, by decide, by decide, by constructor <;> decide⟩
    ⟨0, by decide, by decide⟩ (by norm_num)

end Aeon.Rdna3
