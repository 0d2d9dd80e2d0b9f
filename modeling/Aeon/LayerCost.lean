import Aeon.MemoryGeometry

namespace Aeon.Memory

open Attention (AttentionKind)

/-!
# What a layer's state costs

The bytes of each category for the three kinds of layer a validated configuration
resolves to, and the whole of a stage as the sum of its layers.
-/

namespace StateLayout

/-- A product that fits is not refused. -/
theorem checkedProduct_eq
    (first : Nat)
    (rest : List Nat)
    (positive : ∀ factor, factor ∈ rest → 0 < factor)
    (restFits : rest.prod < 2 ^ 64)
    (fits : first * rest.prod < 2 ^ 64) :
    checkedProduct first rest = .ok (first * rest.prod) := by
  induction rest generalizing first with
  | nil => simp [checkedProduct]
  | cons next rest ih =>
    have nextPositive : 0 < next := positive next List.mem_cons_self
    rw [List.prod_cons] at restFits fits
    have laterFits : rest.prod < 2 ^ 64 :=
      Nat.lt_of_le_of_lt (Nat.le_mul_of_pos_left _ nextPositive) restFits
    have later :=
      ih next
        (fun factor member => positive factor (List.mem_cons_of_mem _ member))
        laterFits restFits
    rw [checkedProduct, later, List.prod_cons]
    simp only [bind, Except.bind]
    rw [if_neg, u64_of_lt fits]
    rintro ⟨-, overflows⟩
    by_cases empty : next * rest.prod = 0
    · have restPositive : 0 < rest.prod :=
        List.prod_pos_iff_forall_pos_nat.mpr fun factor member =>
          positive factor (List.mem_cons_of_mem _ member)
      exact absurd empty (Nat.pos_iff_ne_zero.mp (Nat.mul_pos nextPositive restPositive))
    · rw [Nat.div_lt_iff_lt_mul (Nat.pos_of_ne_zero empty)] at overflows
      omega

theorem checkedProduct_rows
    {rows width element : Nat}
    (widthPositive : 0 < width)
    (elementPositive : 0 < element)
    (rowFits : width * element < 2 ^ 64)
    (fits : rows * (width * element) < 2 ^ 64) :
    checkedProduct rows [width, element] = .ok (rows * (width * element)) := by
  have computed :=
    checkedProduct_eq rows [width, element] (by simp [widthPositive, elementPositive])
      (by simpa using rowFits) (by simpa using fits)
  simpa using computed

theorem checkedProduct_elements
    {count element : Nat}
    (elementPositive : 0 < element)
    (elementFits : element < 2 ^ 64)
    (fits : count * element < 2 ^ 64) :
    checkedProduct count [element] = .ok (count * element) := by
  have computed :=
    checkedProduct_eq count [element] (by simp [elementPositive])
      (by simpa using elementFits) (by simpa using fits)
  simpa using computed

@[simp]
theorem sumBytes_nil : sumBytes [] = .ok 0 :=
  rfl

theorem sumBytes_cons
    (size : Nat)
    (rest : List (Except String Nat)) :
    sumBytes (.ok size :: rest) = (sumBytes rest).map fun total => u64 (size + total) := by
  rw [sumBytes, sumBytes, List.mapM_cons]
  cases rest.mapM id with
  | error message => rfl
  | ok sizes => simp [bind, Except.bind, pure, Except.pure, Except.map, u64]

end StateLayout

/-- The spec every layer of a kind resolves to. -/
def resolvedSpec (kind : AttentionKind) : LayerSpec :=
  { attentionKind := kind
    compressionRatio := kind.compressionRatio
    headDim := 512
    slidingWindow := 128
    indexNHeads := 64
    indexHeadDim := 128
    indexTopk := 512 }

variable (kind : AttentionKind)

/-- The compressed rows a layer of a kind is sized for. -/
def compressedCapacity
    (context : Nat) : Nat :=
  match kind with
  | .sliding => 0
  | .csa => u32 (context + 3) / 4
  | .hca => u32 (context + 127) / 128

/-- The layout of a layer of a kind. -/
def resolvedLayout
    (context : Nat) : StateLayout :=
  { maxSeqLen := context
    localCapacity := min context 128
    headDim := 512
    indexNHeads := 64
    indexHeadDim := 128
    indexTopk := 512
    compressionRatio := kind.compressionRatio
    compressedCapacity := compressedCapacity kind context
    compressorPartialCapacity :=
      match kind with
      | .sliding => 0
      | .csa => 8
      | .hca => 128
    compressorWidth :=
      match kind with
      | .sliding => 0
      | .csa => 1024
      | .hca => 512
    indexerPartialCapacity := if kind = .csa then 8 else 0
    indexerWidth := if kind = .csa then 256 else 0 }

/-- The layout a resolved layer is given. -/
theorem fromSpec_resolvedSpec
    {context : Nat}
    (positive : 0 < context) :
    StateLayout.fromSpec (resolvedSpec kind) context =
      .ok (resolvedLayout kind context) := by
  have notZero : context ≠ 0 := Nat.pos_iff_ne_zero.mp positive
  cases kind <;>
    simp [StateLayout.fromSpec, resolvedSpec, resolvedLayout, compressedCapacity,
      AttentionKind.compressionRatio, notZero, u32OfInt, u32]

/-- The bytes a layer of a kind adds to each category. -/
def layerBytes
    (context : Nat) : AttentionStateMemory :=
  let localRows := min context 128
  let rows := compressedCapacity kind context
  let compressor :=
    match kind with
    | .sliding => 0
    | .csa => 65600
    | .hca => 525312
  let indexer := if kind = .csa then 268 * rows + 35136 else 0
  { localKvBytes := 2048 * localRows
    compressedKvBytes := 2048 * rows
    compressorStateBytes := compressor
    indexerStateBytes := indexer
    metadataBytes := 8 * localRows + 8 * rows
    layerStateBytes := 2056 * localRows + 2056 * rows + compressor + indexer }

/-- A layer's compressed rows stay in a word. -/
theorem compressedCapacity_lt
    (context : Nat) :
    compressedCapacity kind context < 2 ^ 32 := by
  unfold compressedCapacity u32
  cases kind <;> simp only <;> omega

namespace AttentionStateMemory

/-- Two stretches of layers together. -/
def add (one other : AttentionStateMemory) : AttentionStateMemory :=
  { localKvBytes := one.localKvBytes + other.localKvBytes
    compressedKvBytes := one.compressedKvBytes + other.compressedKvBytes
    compressorStateBytes := one.compressorStateBytes + other.compressorStateBytes
    indexerStateBytes := one.indexerStateBytes + other.indexerStateBytes
    metadataBytes := one.metadataBytes + other.metadataBytes
    layerStateBytes := one.layerStateBytes + other.layerStateBytes
    ropeBytes := one.ropeBytes + other.ropeBytes }

theorem add_assoc (one two three : AttentionStateMemory) :
    (one.add two).add three = one.add (two.add three) := by
  simp only [add, Nat.add_assoc]

/-- The categories of the layers' state sum to its total, which is below `bound`. -/
structure Itemised
    (memory : AttentionStateMemory)
    (bound : Nat) : Prop where
  sums :
    memory.layerStateBytes =
      memory.localKvBytes + memory.compressedKvBytes + memory.compressorStateBytes +
        memory.indexerStateBytes + memory.metadataBytes
  below : memory.layerStateBytes ≤ bound

/-- Items add up under the sum of their bounds. -/
theorem Itemised.add
    {one other : AttentionStateMemory}
    {oneBound otherBound : Nat}
    (oneItemised : one.Itemised oneBound)
    (otherItemised : other.Itemised otherBound) :
    (one.add other).Itemised (oneBound + otherBound) := by
  constructor
  · simp only [AttentionStateMemory.add]
    have oneSums := oneItemised.sums
    have otherSums := otherItemised.sums
    omega
  · exact Nat.add_le_add oneItemised.below otherItemised.below

end AttentionStateMemory

/-- A layer's items sum to its total, with room to spare. -/
theorem layerBytes_itemised
    (kind : AttentionKind)
    (context : Nat) :
    (layerBytes kind context).Itemised (2 ^ 44) := by
  have rows := compressedCapacity_lt kind context
  constructor
  · simp only [layerBytes]
    omega
  · simp only [layerBytes]
    cases kind <;> simp only [reduceCtorEq, if_true, if_false] <;> omega

section Resolved

variable (kind : AttentionKind) (context : Nat)

theorem localCacheBytes_resolved :
    (resolvedLayout kind context).localCacheBytes =
      .ok (layerBytes kind context).localKvBytes := by
  simp (disch := first | omega | decide) only [StateLayout.localCacheBytes,
    StateLayout.localVectorBytes, resolvedLayout, StateLayout.checkedProduct_rows,
    StateLayout.sumBytes_cons, StateLayout.sumBytes_nil, Except.map, layerBytes, u64]
  refine congrArg Except.ok ?_
  omega

theorem compressedCacheBytes_resolved :
    (resolvedLayout kind context).compressedCacheBytes =
      .ok (layerBytes kind context).compressedKvBytes := by
  have rows := compressedCapacity_lt kind context
  simp (disch := first | omega | decide) only [StateLayout.compressedCacheBytes,
    StateLayout.compressedVectorBytes, resolvedLayout, StateLayout.checkedProduct_rows,
    StateLayout.sumBytes_cons, StateLayout.sumBytes_nil, Except.map, layerBytes, u64]
  refine congrArg Except.ok ?_
  omega

theorem compressorStateBytes_resolved :
    (resolvedLayout kind context).compressorStateBytes =
      .ok (layerBytes kind context).compressorStateBytes := by
  cases kind with
  | sliding => rfl
  | csa | hca =>
    simp (disch := decide) only [StateLayout.compressorStateBytes,
      StateLayout.compressorPartialVectorBytes,
      StateLayout.compressorPartialMetadataBytes, resolvedLayout,
      StateLayout.checkedProduct_rows, StateLayout.checkedProduct_elements,
      StateLayout.sumBytes_cons, StateLayout.sumBytes_nil, Except.map, layerBytes, u64]
    rfl

theorem localMetadataBytes_resolved :
    (resolvedLayout kind context).localMetadataBytes = .ok (min context 128 * 8) := by
  simp (disch := first | omega | decide) only [StateLayout.localMetadataBytes,
    resolvedLayout, StateLayout.checkedProduct_elements]

theorem compressedMetadataBytes_resolved :
    (resolvedLayout kind context).compressedMetadataBytes =
      .ok (compressedCapacity kind context * 8) := by
  have rows := compressedCapacity_lt kind context
  simp (disch := first | omega | decide) only [StateLayout.compressedMetadataBytes,
    resolvedLayout, StateLayout.checkedProduct_elements]

theorem usesIndexer_resolved :
    (resolvedLayout kind context).usesIndexer = decide (kind = .csa) := by
  cases kind <;> rfl

theorem indexerCacheBytes_resolved :
    (resolvedLayout kind context).indexerCacheBytes =
      .ok (if kind = .csa then 264 * compressedCapacity kind context else 0) := by
  have rows := compressedCapacity_lt kind context
  rw [StateLayout.indexerCacheBytes, usesIndexer_resolved]
  cases kind with
  | sliding => rfl
  | hca => rfl
  | csa =>
    simp (disch := first | omega | decide) only [decide_true, if_true,
      StateLayout.indexerKeyBytes, StateLayout.indexerMetadataBytes, resolvedLayout,
      StateLayout.checkedProduct_rows, StateLayout.checkedProduct_elements,
      StateLayout.sumBytes_cons, StateLayout.sumBytes_nil, Except.map, u64]
    refine congrArg Except.ok ?_
    omega

theorem indexerWorkspaceBytes_resolved :
    (resolvedLayout kind context).indexerWorkspaceBytes =
      .ok (if kind = .csa then 4 * compressedCapacity kind context + 35136 else 0) := by
  have rows := compressedCapacity_lt kind context
  rw [StateLayout.indexerWorkspaceBytes, usesIndexer_resolved]
  cases kind with
  | sliding => rfl
  | hca => rfl
  | csa =>
    simp (disch := first | omega | decide) only [decide_true, if_true,
      StateLayout.indexerPartialVectorBytes, StateLayout.indexerPartialMetadataBytes,
      StateLayout.indexerQueryBytes, StateLayout.indexerWeightsBytes,
      StateLayout.indexerScoresBytes, StateLayout.indexerTopkBytes, resolvedLayout,
      StateLayout.checkedProduct_rows, StateLayout.checkedProduct_elements,
      StateLayout.sumBytes_cons, StateLayout.sumBytes_nil, Except.map, u64]
    refine congrArg Except.ok ?_
    omega

theorem indexerStateBytes_resolved :
    StateLayout.sumBytes
        [(resolvedLayout kind context).indexerCacheBytes,
          (resolvedLayout kind context).indexerWorkspaceBytes] =
      .ok (layerBytes kind context).indexerStateBytes := by
  have rows := compressedCapacity_lt kind context
  simp only [indexerCacheBytes_resolved, indexerWorkspaceBytes_resolved,
    StateLayout.sumBytes_cons, StateLayout.sumBytes_nil, Except.map, layerBytes, u64]
  refine congrArg Except.ok ?_
  cases kind <;> simp only [reduceCtorEq, if_true, if_false] <;> omega

theorem metadataBytes_resolved :
    StateLayout.sumBytes
        [(resolvedLayout kind context).localMetadataBytes,
          (resolvedLayout kind context).compressedMetadataBytes] =
      .ok (layerBytes kind context).metadataBytes := by
  have rows := compressedCapacity_lt kind context
  simp only [localMetadataBytes_resolved, compressedMetadataBytes_resolved,
    StateLayout.sumBytes_cons, StateLayout.sumBytes_nil, Except.map, layerBytes, u64]
  refine congrArg Except.ok ?_
  omega

/-- The total a layout computes is the sum of its items. -/
theorem totalDeviceBytes_resolved :
    (resolvedLayout kind context).totalDeviceBytes =
      .ok (layerBytes kind context).layerStateBytes := by
  have rows := compressedCapacity_lt kind context
  simp only [StateLayout.totalDeviceBytes, StateLayout.localStateBytes,
    StateLayout.compressedStateBytes, localCacheBytes_resolved,
    compressedCacheBytes_resolved, localMetadataBytes_resolved,
    compressedMetadataBytes_resolved, compressorStateBytes_resolved,
    indexerCacheBytes_resolved, indexerWorkspaceBytes_resolved,
    StateLayout.sumBytes_cons, StateLayout.sumBytes_nil, Except.map, layerBytes, u64]
  refine congrArg Except.ok ?_
  cases kind <;> simp only [reduceCtorEq, if_true, if_false] <;> omega

end Resolved

/-- Adding a layer does not wrap. -/
theorem addLayer_resolvedLayout
    {memory : AttentionStateMemory}
    {bound : Nat}
    (itemised : memory.Itemised bound)
    (fits : bound + 2 ^ 44 < 2 ^ 64)
    (kind : AttentionKind)
    (context : Nat) :
    memory.addLayer (resolvedLayout kind context) =
      .ok (memory.add (layerBytes kind context)) := by
  have sums := (itemised.add (layerBytes_itemised kind context)).sums
  have below := (itemised.add (layerBytes_itemised kind context)).below
  simp only [AttentionStateMemory.addLayer, localCacheBytes_resolved,
    compressedCacheBytes_resolved, compressorStateBytes_resolved,
    indexerStateBytes_resolved, metadataBytes_resolved, totalDeviceBytes_resolved, bind,
    Except.bind, pure, Except.pure]
  simp only [AttentionStateMemory.add] at sums below ⊢
  simp (disch := omega) only [u64_of_lt]
  rfl

/-- The bytes of a stage's layers together. -/
def stageBytes (context : Nat) : List AttentionKind → AttentionStateMemory
  | [] => {}
  | kind :: rest => (layerBytes kind context).add (stageBytes context rest)

/-- A stage's items sum to its total. -/
theorem stageBytes_itemised
    (context : Nat)
    (kinds : List AttentionKind) :
    (stageBytes context kinds).Itemised (kinds.length * 2 ^ 44) := by
  induction kinds with
  | nil => exact ⟨rfl, Nat.zero_le _⟩
  | cons kind rest ih =>
    have together := (layerBytes_itemised kind context).add ih
    rw [List.length_cons, Nat.succ_mul, Nat.add_comm]
    exact together

/-- The accumulation over a stage's layers is `stageBytes`. -/
theorem foldlM_addLayer
    {context : Nat}
    (positive : 0 < context)
    (kinds : List AttentionKind)
    {memory : AttentionStateMemory}
    {bound : Nat}
    (itemised : memory.Itemised bound)
    (fits : bound + kinds.length * 2 ^ 44 < 2 ^ 64) :
    ((kinds.map resolvedSpec).foldlM (m := Except String)
        (fun memory spec => do
          memory.addLayer (← StateLayout.fromSpec spec context))
        memory) =
      .ok (memory.add (stageBytes context kinds)) := by
  induction kinds generalizing memory bound with
  | nil => rfl
  | cons kind rest ih =>
    have split : (kind :: rest).length * 2 ^ 44 = 2 ^ 44 + rest.length * 2 ^ 44 := by
      rw [List.length_cons, Nat.succ_mul, Nat.add_comm]
    rw [split, ← Nat.add_assoc] at fits
    have added := addLayer_resolvedLayout itemised (by omega) kind context
    have later :=
      ih (itemised.add (layerBytes_itemised kind context)) fits
    rw [List.map_cons, List.foldlM_cons, fromSpec_resolvedSpec kind positive]
    simp only [bind, Except.bind, added] at later ⊢
    rw [later, AttentionStateMemory.add_assoc]
    rfl

end Aeon.Memory
