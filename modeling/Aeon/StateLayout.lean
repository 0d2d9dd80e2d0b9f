import Aeon.HostBudget
import Aeon.LayerState

namespace Aeon.Memory

open Attention (AttentionKind)

/-!
# The layout of a layer's device state

`V4LayerStateLayout` with all its fields: the capacities `from_spec` derives from a layer
and a context, and the byte count of every piece of state.  A product that leaves 64 bits
is refused.
-/

/-- `V4LayerSpec`, less the layer's number. -/
structure LayerSpec where
  attentionKind : AttentionKind
  compressionRatio : Int
  headDim : Int
  slidingWindow : Int
  indexNHeads : Int
  indexHeadDim : Int
  indexTopk : Int
  deriving Repr, DecidableEq

/-- `V4LayerStateLayout`. -/
structure StateLayout where
  maxSeqLen : Nat := 0
  localCapacity : Nat := 0
  headDim : Nat := 0
  indexNHeads : Nat := 0
  indexHeadDim : Nat := 0
  indexTopk : Nat := 0
  compressionRatio : Int := 0
  compressedCapacity : Nat := 0
  compressorPartialCapacity : Nat := 0
  compressorWidth : Nat := 0
  indexerPartialCapacity : Nat := 0
  indexerWidth : Nat := 0
  deriving Repr, DecidableEq

namespace StateLayout

/-- `from_spec`. -/
def fromSpec (spec : LayerSpec) (requestedSeqLen : Nat) : Except String StateLayout :=
  if requestedSeqLen = 0 ∨ spec.headDim ≤ 0 ∨ spec.slidingWindow ≤ 0 then
    .error "V4LayerStateLayout: invalid layer dimensions"
  else if spec.attentionKind = .sliding ∧ spec.compressionRatio ≠ 0 then
    .error "V4LayerStateLayout: Sliding layer must have ratio 0"
  else if spec.attentionKind = .csa ∧ spec.compressionRatio ≠ 4 then
    .error "V4LayerStateLayout: CSA layer must have ratio 4"
  else if spec.attentionKind = .hca ∧ spec.compressionRatio ≠ 128 then
    .error "V4LayerStateLayout: HCA layer must have ratio 128"
  else
    let layout : StateLayout :=
      { maxSeqLen := requestedSeqLen
        localCapacity := min requestedSeqLen (u32OfInt spec.slidingWindow)
        headDim := u32OfInt spec.headDim
        indexNHeads := u32OfInt spec.indexNHeads
        indexHeadDim := u32OfInt spec.indexHeadDim
        indexTopk := u32OfInt spec.indexTopk
        compressionRatio := spec.compressionRatio }
    if spec.compressionRatio = 0 then
      .ok layout
    else
      let ratio := u32OfInt spec.compressionRatio
      let coefficient := if spec.compressionRatio = 4 then 2 else 1
      let compressed : StateLayout :=
        { layout with
          compressedCapacity := u32 (requestedSeqLen + ratio - 1) / ratio
          compressorPartialCapacity := u32 (coefficient * ratio)
          compressorWidth := u32 (coefficient * u32OfInt spec.headDim) }
      if spec.attentionKind = .csa then
        if spec.indexNHeads ≤ 0 ∨ spec.indexHeadDim ≤ 0 ∨ spec.indexTopk ≤ 0 then
          .error "V4LayerStateLayout: invalid CSA indexer dimensions"
        else
          .ok
            { compressed with
              indexerPartialCapacity := compressed.compressorPartialCapacity
              indexerWidth := u32 (coefficient * u32OfInt spec.indexHeadDim) }
      else
        .ok compressed

/-- `checked_product`. -/
def checkedProduct : Nat → List Nat → Except String Nat
  | first, [] => .ok first
  | first, next :: rest => do
      let product ← checkedProduct next rest
      if first ≠ 0 ∧ (2 ^ 64 - 1) / product < first then
        .error "V4LayerStateLayout: state byte count overflow"
      else
        .ok (u64 (first * product))

/-- A sum of sizes. -/
def sumBytes (sizes : List (Except String Nat)) : Except String Nat := do
  let sizes ← sizes.mapM id
  return u64 sizes.sum

variable (layout : StateLayout)

/-- `is_compressed`. -/
def isCompressed : Bool :=
  layout.compressionRatio ≠ 0

/-- `uses_indexer`. -/
def usesIndexer : Bool :=
  layout.compressionRatio = 4

def localVectorBytes : Except String Nat :=
  checkedProduct layout.localCapacity [layout.headDim, 2]

def localCacheBytes : Except String Nat :=
  sumBytes [layout.localVectorBytes, layout.localVectorBytes]

def localMetadataBytes : Except String Nat :=
  checkedProduct layout.localCapacity [8]

def compressedVectorBytes : Except String Nat :=
  checkedProduct layout.compressedCapacity [layout.headDim, 2]

def compressedCacheBytes : Except String Nat :=
  sumBytes [layout.compressedVectorBytes, layout.compressedVectorBytes]

def compressedMetadataBytes : Except String Nat :=
  checkedProduct layout.compressedCapacity [8]

def compressorPartialVectorBytes : Except String Nat :=
  checkedProduct layout.compressorPartialCapacity [layout.compressorWidth, 4]

def compressorPartialMetadataBytes : Except String Nat :=
  checkedProduct layout.compressorPartialCapacity [8]

def compressorStateBytes : Except String Nat :=
  sumBytes [layout.compressorPartialVectorBytes, layout.compressorPartialVectorBytes,
    layout.compressorPartialMetadataBytes]

def indexerKeyBytes : Except String Nat :=
  checkedProduct layout.compressedCapacity [layout.indexHeadDim, 2]

def indexerMetadataBytes : Except String Nat :=
  checkedProduct layout.compressedCapacity [8]

def indexerCacheBytes : Except String Nat :=
  if layout.usesIndexer then
    sumBytes [layout.indexerKeyBytes, layout.indexerMetadataBytes]
  else
    .ok 0

def indexerPartialVectorBytes : Except String Nat :=
  checkedProduct layout.indexerPartialCapacity [layout.indexerWidth, 4]

def indexerPartialMetadataBytes : Except String Nat :=
  checkedProduct layout.indexerPartialCapacity [8]

def indexerQueryBytes : Except String Nat :=
  checkedProduct layout.indexNHeads [layout.indexHeadDim, 2]

def indexerWeightsBytes : Except String Nat :=
  checkedProduct layout.indexNHeads [4]

def indexerScoresBytes : Except String Nat :=
  checkedProduct layout.compressedCapacity [4]

def indexerTopkBytes : Except String Nat :=
  checkedProduct layout.indexTopk [4]

def indexerWorkspaceBytes : Except String Nat :=
  if layout.usesIndexer then
    sumBytes [layout.indexerPartialVectorBytes, layout.indexerPartialVectorBytes,
      layout.indexerPartialMetadataBytes, layout.indexerQueryBytes,
      layout.indexerWeightsBytes, layout.indexerScoresBytes, layout.indexerTopkBytes]
  else
    .ok 0

def localStateBytes : Except String Nat :=
  sumBytes [layout.localCacheBytes, layout.localMetadataBytes]

def compressedStateBytes : Except String Nat :=
  sumBytes [layout.compressedCacheBytes, layout.compressedMetadataBytes]

def totalDeviceBytes : Except String Nat :=
  sumBytes [layout.localStateBytes, layout.compressedStateBytes,
    layout.compressorStateBytes, layout.indexerCacheBytes, layout.indexerWorkspaceBytes]

end StateLayout

end Aeon.Memory
