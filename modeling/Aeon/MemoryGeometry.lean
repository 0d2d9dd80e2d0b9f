import Aeon.StateLayout

namespace Aeon.Memory

open Attention (AttentionKind)

/-!
# The memory geometry of a pipeline stage

`V4ModelSpec::resolve_layers` and `make_v4_memory_geometry`: the layer specs a
configuration resolves to, and the attention state of one stage's own layers as a
function of the context, with the categories the report prints.
-/

/-- `DeepSeekV4Config`, the integers that size a layer's state or a budget. -/
structure ModelConfig where
  hiddenSize : Int := 4096
  numHiddenLayers : Int := 43
  headDim : Int := 512
  qkRopeHeadDim : Int := 64
  slidingWindow : Int := 128
  indexHeadDim : Int := 128
  indexNHeads : Int := 64
  indexTopk : Int := 512
  compressRatios : List Int := []
  nRoutedExperts : Int := 256
  numExpertsPerTok : Int := 6
  hcMult : Int := 4
  maxPositionEmbeddings : Int := 1048576
  deriving Repr, DecidableEq

namespace ModelConfig

variable (config : ModelConfig)

/-- One entry of `compress_ratios`. -/
def compressRatio (index : Nat) : Int :=
  config.compressRatios.getD index 0

/-- The `expect` of `validate_config`. -/
def expect
    (condition : Bool)
    (message : String) : Except String Unit :=
  if condition then .ok () else .error ("V4ModelSpec: " ++ message)

/-- The ratio the base decoder's schedule has at a layer from 2 on. -/
def expectedRatio (layer : Nat) : Int :=
  if layer % 2 = 0 then 4 else 128

/-- The checks of the compression schedule at the end of `validate_config`. -/
def validateSchedule : Except String Unit := do
  expect (config.compressRatios.length = config.numHiddenLayers.toNat + 3)
    "compress_ratios must contain 43 base entries and 3 auxiliary entries"
  expect (config.compressRatio 0 = 0 ∧ config.compressRatio 1 = 0)
    "layers 0-1 must be sliding attention"
  (List.range' 2 (config.numHiddenLayers.toNat - 2)).forM fun layer =>
    expect (config.compressRatio layer = expectedRatio layer)
      ("base decoder compression schedule is incompatible at layer " ++ toString layer)
  (List.range' config.numHiddenLayers.toNat
      (config.compressRatios.length - config.numHiddenLayers.toNat)).forM fun index =>
    expect (config.compressRatio index = 0)
      ("auxiliary compression schedule entries must be zero at index " ++ toString index)

/-- `validate_config`, on the fields of `ModelConfig`. -/
def validateConfig : Except String Unit := do
  expect (config.hiddenSize = 4096) "hidden_size must be 4096"
  expect (config.numHiddenLayers = 43) "num_hidden_layers must be 43"
  expect (config.headDim = 512) "head_dim must be 512"
  expect (config.qkRopeHeadDim = 64) "qk_rope_head_dim must be 64"
  expect (config.slidingWindow = 128) "sliding_window must be 128"
  expect (config.indexHeadDim = 128) "index_head_dim must be 128"
  expect (config.indexNHeads = 64) "index_n_heads must be 64"
  expect (config.indexTopk = 512) "index_topk must be 512"
  expect (config.maxPositionEmbeddings = 1048576)
    "max_position_embeddings must be 1048576"
  expect (config.nRoutedExperts = 256) "n_routed_experts must be 256"
  expect (config.numExpertsPerTok = 6) "num_experts_per_tok must be 6"
  expect (config.hcMult = 4) "hc_mult must be 4"
  config.validateSchedule

/-- The spec of one layer. -/
def resolveLayer (layer : Nat) : LayerSpec :=
  { attentionKind :=
      if config.compressRatio layer = 0 then .sliding
      else if config.compressRatio layer = 4 then .csa
      else .hca
    compressionRatio := config.compressRatio layer
    headDim := config.headDim
    slidingWindow := config.slidingWindow
    indexNHeads := config.indexNHeads
    indexHeadDim := config.indexHeadDim
    indexTopk := config.indexTopk }

/-- `resolve_layers`. -/
def resolveLayers : Except String (List LayerSpec) := do
  config.validateConfig
  return (List.range config.numHiddenLayers.toNat).map config.resolveLayer

end ModelConfig

/-- `LayerRange`, the layers `[first, first + count)`; its end is a `uint32_t`. -/
structure LayerRange where
  first : Nat
  count : Nat
  endsInWord : first + count < 2 ^ 32

/-- `AttentionStateMemory`. -/
structure AttentionStateMemory where
  localKvBytes : Nat := 0
  compressedKvBytes : Nat := 0
  compressorStateBytes : Nat := 0
  indexerStateBytes : Nat := 0
  metadataBytes : Nat := 0
  layerStateBytes : Nat := 0
  ropeBytes : Nat := 0
  deriving Repr, DecidableEq

namespace AttentionStateMemory

/-- `total_bytes`. -/
def totalBytes (memory : AttentionStateMemory) : Nat :=
  u64 (memory.layerStateBytes + memory.ropeBytes)

/-- One layer's share, as the loop of `make_v4_memory_geometry` adds it. -/
def addLayer
    (memory : AttentionStateMemory)
    (layout : StateLayout) : Except String AttentionStateMemory := do
  let localKv ← layout.localCacheBytes
  let compressedKv ← layout.compressedCacheBytes
  let compressorState ← layout.compressorStateBytes
  let indexerState ←
    StateLayout.sumBytes [layout.indexerCacheBytes, layout.indexerWorkspaceBytes]
  let metadata ←
    StateLayout.sumBytes [layout.localMetadataBytes, layout.compressedMetadataBytes]
  let layerState ← layout.totalDeviceBytes
  return { memory with
    localKvBytes := u64 (memory.localKvBytes + localKv)
    compressedKvBytes := u64 (memory.compressedKvBytes + compressedKv)
    compressorStateBytes := u64 (memory.compressorStateBytes + compressorState)
    indexerStateBytes := u64 (memory.indexerStateBytes + indexerState)
    metadataBytes := u64 (memory.metadataBytes + metadata)
    layerStateBytes := u64 (memory.layerStateBytes + layerState) }

end AttentionStateMemory

/-- `ModelMemoryGeometry`, with the categories of its attention state. -/
structure StageGeometry where
  numHiddenLayers : Int
  routedExperts : Int
  expertsPerTok : Int
  maxPositionEmbeddings : Int
  prefillCarryBytesPerToken : Nat
  attentionStateMemory : Nat → Except String AttentionStateMemory

/-- The geometry less its categories, as the host's half of the budget reads it. -/
def StageGeometry.summed (geometry : StageGeometry) : ModelMemoryGeometry :=
  { numHiddenLayers := geometry.numHiddenLayers
    routedExperts := geometry.routedExperts
    expertsPerTok := geometry.expertsPerTok
    maxPositionEmbeddings := geometry.maxPositionEmbeddings
    prefillCarryBytesPerToken := geometry.prefillCarryBytesPerToken
    attentionStateMemory := fun context =>
      (geometry.attentionStateMemory context).toOption.map (·.totalBytes) }

/-- The lambda of `make_v4_memory_geometry` over the range's own layer specs. -/
def attentionStateMemory
    (specs : List LayerSpec)
    (ropeHalf contextSize : Nat) : Except String AttentionStateMemory := do
  if contextSize = 0 then
    throw "make_v4_memory_geometry: attention context cannot be 0"
  let memory ← specs.foldlM (m := Except String)
    (fun memory spec => do
      memory.addLayer (← StateLayout.fromSpec spec contextSize))
    ({} : AttentionStateMemory)
  return { memory with ropeBytes := u64 (contextSize * ropeHalf * 4 * 4) }

/-- `make_v4_memory_geometry`. -/
def makeV4MemoryGeometry
    (config : ModelConfig)
    (range : LayerRange) : Except String StageGeometry := do
  let layerSpecs ← config.resolveLayers
  if layerSpecs.length < u32 (range.first + range.count) then
    throw "make_v4_memory_geometry: the layer range is outside the model"
  let ropeHalf := u32OfInt (config.qkRopeHeadDim.tdiv 2)
  let geometry : StageGeometry :=
    { numHiddenLayers := range.count
      routedExperts := config.nRoutedExperts
      expertsPerTok := config.numExpertsPerTok
      maxPositionEmbeddings := config.maxPositionEmbeddings
      prefillCarryBytesPerToken :=
        u64 ((config.hcMult % 2 ^ 64).toNat * (config.hiddenSize % 2 ^ 64).toNat * (2 + 4))
      attentionStateMemory :=
        attentionStateMemory ((layerSpecs.drop range.first).take range.count) ropeHalf }
  return geometry

end Aeon.Memory
