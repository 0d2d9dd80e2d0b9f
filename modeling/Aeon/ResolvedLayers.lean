import Aeon.LayerCost

namespace Aeon.Memory

open Attention (AttentionKind)

/-!
# The layers a validated configuration resolves to

What `validate_config` leaves of a configuration: the sizes the kernels are built for and
one fixed schedule of layer kinds.  A stage's geometry is then a function of its range.
-/

namespace ModelConfig

variable {config : ModelConfig}

theorem expect_bind_ok
    {Value : Type}
    {condition : Bool}
    {message : String}
    {next : Unit → Except String Value}
    {value : Value} :
    (expect condition message >>= next) = .ok value ↔
      condition = true ∧ next () = .ok value := by
  cases condition <;> simp [expect, bind, Except.bind]

/-- A checked loop that ends has passed every check. -/
theorem forM_expect_ok
    {condition : Nat → Bool}
    {message : Nat → String}
    {indices : List Nat}
    (passed :
      (indices.forM fun index => expect (condition index) (message index)) = .ok ()) :
    ∀ index, index ∈ indices → condition index = true := by
  induction indices with
  | nil => simp
  | cons first rest ih =>
    rw [List.forM_eq_forM, List.forM_cons, expect_bind_ok, ← List.forM_eq_forM] at passed
    intro index member
    rcases List.mem_cons.mp member with rfl | later
    · exact passed.1
    · exact ih passed.2 index later

/-- What a configuration that passes `validate_config` is. -/
structure Validated (config : ModelConfig) : Prop where
  hiddenSize : config.hiddenSize = 4096
  numHiddenLayers : config.numHiddenLayers = 43
  headDim : config.headDim = 512
  qkRopeHeadDim : config.qkRopeHeadDim = 64
  slidingWindow : config.slidingWindow = 128
  indexHeadDim : config.indexHeadDim = 128
  indexNHeads : config.indexNHeads = 64
  indexTopk : config.indexTopk = 512
  maxPositionEmbeddings : config.maxPositionEmbeddings = 1048576
  nRoutedExperts : config.nRoutedExperts = 256
  numExpertsPerTok : config.numExpertsPerTok = 6
  hcMult : config.hcMult = 4
  slidingLayers : config.compressRatio 0 = 0 ∧ config.compressRatio 1 = 0
  compressedLayers :
    ∀ layer, 2 ≤ layer → layer < 43 → config.compressRatio layer = expectedRatio layer

theorem validateConfig_ok
    (accepted : config.validateConfig = .ok ()) :
    config.Validated := by
  simp only [validateConfig, validateSchedule, expect_bind_ok, decide_eq_true_eq] at accepted
  obtain ⟨hiddenSize, numHiddenLayers, headDim, qkRopeHeadDim, slidingWindow,
    indexHeadDim, indexNHeads, indexTopk, maxPositionEmbeddings, nRoutedExperts,
    numExpertsPerTok, hcMult, -, slidingLayers, schedule⟩ := accepted
  have checked : ((List.range' 2 (config.numHiddenLayers.toNat - 2)).forM fun layer =>
      expect (config.compressRatio layer = expectedRatio layer)
        ("base decoder compression schedule is incompatible at layer " ++
          toString layer)) = .ok () := by
    cases passed : (List.range' 2 (config.numHiddenLayers.toNat - 2)).forM fun layer =>
        expect (config.compressRatio layer = expectedRatio layer)
          ("base decoder compression schedule is incompatible at layer " ++
            toString layer) with
    | ok done => rfl
    | error message =>
      rw [passed] at schedule
      cases schedule
  refine ⟨hiddenSize, numHiddenLayers, headDim, qkRopeHeadDim, slidingWindow, indexHeadDim,
    indexNHeads, indexTopk, maxPositionEmbeddings, nRoutedExperts, numExpertsPerTok, hcMult,
    slidingLayers, ?_⟩
  intro layer least inside
  have member : layer ∈ List.range' 2 (config.numHiddenLayers.toNat - 2) := by
    rw [List.mem_range'_1, numHiddenLayers]
    exact ⟨least, by simpa using inside⟩
  simpa using forM_expect_ok checked layer member

/-- The kind of a layer of the base decoder. -/
def layerKind (layer : Nat) : AttentionKind :=
  if layer < 2 then .sliding
  else if layer % 2 = 0 then .csa
  else .hca

theorem Validated.compressRatio_eq
    (validated : config.Validated)
    {layer : Nat}
    (inside : layer < 43) :
    config.compressRatio layer = (layerKind layer).compressionRatio := by
  by_cases early : layer < 2
  · rw [layerKind, if_pos early]
    obtain rfl | rfl : layer = 0 ∨ layer = 1 := by omega
    · exact validated.slidingLayers.1
    · exact validated.slidingLayers.2
  · rw [layerKind, if_neg early, validated.compressedLayers layer (by omega) inside,
      expectedRatio]
    split <;> rfl

theorem Validated.resolveLayer_eq
    (validated : config.Validated)
    {layer : Nat}
    (inside : layer < 43) :
    config.resolveLayer layer = resolvedSpec (layerKind layer) := by
  rw [resolveLayer, validated.compressRatio_eq inside, validated.headDim,
    validated.slidingWindow, validated.indexNHeads, validated.indexHeadDim,
    validated.indexTopk]
  cases layerKind layer <;> rfl

theorem resolveLayers_ok
    {specs : List LayerSpec}
    (resolved : config.resolveLayers = .ok specs) :
    config.Validated ∧ specs = ((List.range 43).map layerKind).map resolvedSpec := by
  rw [resolveLayers] at resolved
  cases checked : config.validateConfig with
  | error message =>
    rw [checked] at resolved
    cases resolved
  | ok done =>
    have validated := validateConfig_ok checked
    rw [checked, validated.numHiddenLayers] at resolved
    obtain rfl := Except.ok.inj resolved
    refine ⟨validated, ?_⟩
    rw [List.map_map]
    refine List.map_congr_left fun layer member => ?_
    exact validated.resolveLayer_eq (List.mem_range.mp member)

end ModelConfig

/-- The kinds of a stage's own layers. -/
def LayerRange.kinds (range : LayerRange) : List AttentionKind :=
  (((List.range 43).map ModelConfig.layerKind).drop range.first).take range.count

theorem LayerRange.kinds_length_le (range : LayerRange) : range.kinds.length ≤ 43 := by
  rw [LayerRange.kinds, List.length_take, List.length_drop, List.length_map,
    List.length_range]
  omega

/-- What `make_v4_memory_geometry` returns for an accepted configuration. -/
structure StageOf
    (range : LayerRange)
    (geometry : StageGeometry) : Prop where
  inside : range.first + range.count ≤ 43
  numHiddenLayers : geometry.numHiddenLayers = range.count
  routedExperts : geometry.routedExperts = 256
  expertsPerTok : geometry.expertsPerTok = 6
  maxPositionEmbeddings : geometry.maxPositionEmbeddings = 1048576
  attentionState :
    geometry.attentionStateMemory =
      attentionStateMemory (range.kinds.map resolvedSpec) 32

theorem makeV4MemoryGeometry_ok
    {config : ModelConfig}
    {range : LayerRange}
    {geometry : StageGeometry}
    (made : makeV4MemoryGeometry config range = .ok geometry) :
    StageOf range geometry := by
  rw [makeV4MemoryGeometry] at made
  cases resolved : config.resolveLayers with
  | error message =>
    rw [resolved] at made
    cases made
  | ok specs =>
    obtain ⟨validated, rfl⟩ := ModelConfig.resolveLayers_ok resolved
    rw [resolved] at made
    simp only [bind, Except.bind, List.length_map, List.length_range] at made
    split at made
    next outside => cases made
    next inside =>
      rw [u32, Nat.mod_eq_of_lt range.endsInWord] at inside
      obtain rfl := Except.ok.inj made
      refine ⟨Nat.not_lt.mp inside, rfl, validated.nRoutedExperts,
        validated.numExpertsPerTok, validated.maxPositionEmbeddings, ?_⟩
      simp only [LayerRange.kinds, List.map_drop, List.map_take, validated.qkRopeHeadDim]
      rfl

section Cost

variable
    {range : LayerRange}
    {geometry : StageGeometry}
    (stage : StageOf range geometry)

/-- A stage's bytes at a context: its layers' and one set of rotary tables. -/
def stageMemory
    (range : LayerRange)
    (context : Nat) : AttentionStateMemory :=
  { stageBytes context range.kinds with ropeBytes := 512 * context }

include stage in
theorem StageOf.attentionStateMemory_eq
    {context : Nat}
    (positive : 0 < context)
    (word : context < 2 ^ 32) :
    geometry.attentionStateMemory context = .ok (stageMemory range context) := by
  have few := range.kinds_length_le
  have folded :=
    @foldlM_addLayer context positive range.kinds {} 0 ⟨rfl, Nat.le_refl 0⟩ (by omega)
  have rope : u64 (context * 32 * 4 * 4) = 512 * context := by
    unfold u64
    omega
  rw [stage.attentionState, attentionStateMemory, if_neg (Nat.pos_iff_ne_zero.mp positive)]
  simp only [bind, Except.bind] at folded ⊢
  rw [folded, rope]
  simp only [AttentionStateMemory.add, Nat.zero_add, stageMemory]
  rfl

/-- A stage's layer state is the sum of its categories, far below 64 bits. -/
theorem stageBytes_small
    (range : LayerRange)
    (context : Nat) :
    (stageBytes context range.kinds).Itemised (43 * 2 ^ 44) := by
  have itemised := stageBytes_itemised context range.kinds
  refine ⟨itemised.sums, Nat.le_trans itemised.below ?_⟩
  exact Nat.mul_le_mul_right _ range.kinds_length_le

theorem stageMemory_totalBytes
    (range : LayerRange)
    {context : Nat}
    (word : context < 2 ^ 32) :
    (stageMemory range context).totalBytes =
      (stageBytes context range.kinds).layerStateBytes + 512 * context := by
  have below := (stageBytes_small range context).below
  simp only [AttentionStateMemory.totalBytes, stageMemory]
  exact u64_of_lt (by omega)

variable {smaller larger : Nat}

/-- No ceiling wraps up to this context. -/
theorem compressedCapacity_mono
    (kind : AttentionKind)
    (ordered : smaller ≤ larger)
    (unwrapped : larger + 127 < 2 ^ 32) :
    compressedCapacity kind smaller ≤ compressedCapacity kind larger := by
  unfold compressedCapacity u32
  cases kind <;> simp only <;> omega

theorem layerBytes_mono
    (kind : AttentionKind)
    (ordered : smaller ≤ larger)
    (unwrapped : larger + 127 < 2 ^ 32) :
    (layerBytes kind smaller).layerStateBytes ≤
      (layerBytes kind larger).layerStateBytes := by
  have rows := compressedCapacity_mono kind ordered unwrapped
  simp only [layerBytes]
  cases kind <;> simp only [reduceCtorEq, if_true, if_false] <;> omega

theorem stageBytes_mono
    (kinds : List AttentionKind)
    (ordered : smaller ≤ larger)
    (unwrapped : larger + 127 < 2 ^ 32) :
    (stageBytes smaller kinds).layerStateBytes ≤
      (stageBytes larger kinds).layerStateBytes := by
  induction kinds with
  | nil => exact Nat.le_refl 0
  | cons kind rest ih =>
    exact Nat.add_le_add (layerBytes_mono kind ordered unwrapped) ih

/-- A stage's attention state grows strictly with the context: the tables do. -/
theorem stageMemory_strictMono
    (range : LayerRange)
    (ordered : smaller < larger)
    (unwrapped : larger + 127 < 2 ^ 32) :
    (stageMemory range smaller).totalBytes < (stageMemory range larger).totalBytes := by
  have layers := stageBytes_mono range.kinds (Nat.le_of_lt ordered) unwrapped
  rw [stageMemory_totalBytes range (by omega), stageMemory_totalBytes range (by omega)]
  omega

theorem stageMemory_mono
    (range : LayerRange)
    (ordered : smaller ≤ larger)
    (unwrapped : larger + 127 < 2 ^ 32) :
    (stageMemory range smaller).totalBytes ≤ (stageMemory range larger).totalBytes := by
  rcases Nat.eq_or_lt_of_le ordered with rfl | less
  · exact Nat.le_refl _
  · exact Nat.le_of_lt (stageMemory_strictMono range less unwrapped)

end Cost

end Aeon.Memory
