import Aeon.LayerBody
import Aeon.LittleEndian
import Aeon.StateLayout
import Mathlib.Data.List.TakeWhile

namespace Aeon.Attention

open Memory (StateLayout)

/-!
# Snapshots of a layer

`snapshot_state` and `restore_state`.  The state of a layer is eighteen device buffers
and four counters.  A restore checks and writes one piece after the other, so a piece
that is refused leaves the pieces in front of it written.
-/

/-- The pieces of `V4LayerStateSnapshot`. -/
inductive StatePiece where
  | localKeyCache
  | localValueCache
  | localPositions
  | compressedKeyCache
  | compressedValueCache
  | compressedPositions
  | compressorPartialKv
  | compressorPartialScore
  | compressorPartialPositions
  | indexerKeyCache
  | indexerPositions
  | indexerPartialKv
  | indexerPartialScore
  | indexerPartialPositions
  | indexerQuery
  | indexerWeights
  | indexerScores
  | indexerTopkIndices
  deriving Repr, DecidableEq

namespace StatePiece

/-- The order in which `restore_state` writes them. -/
def order : List StatePiece :=
  [localKeyCache, localValueCache, localPositions, compressedKeyCache,
    compressedValueCache, compressedPositions, compressorPartialKv,
    compressorPartialScore, compressorPartialPositions, indexerKeyCache,
    indexerPositions, indexerPartialKv, indexerPartialScore, indexerPartialPositions,
    indexerQuery, indexerWeights, indexerScores, indexerTopkIndices]

theorem mem_order (piece : StatePiece) : piece ∈ order := by
  cases piece <;> decide

/-- The name in the messages of `restore_state`. -/
def what : StatePiece → String
  | localKeyCache => "local_key_cache"
  | localValueCache => "local_value_cache"
  | localPositions => "local_positions"
  | compressedKeyCache => "compressed_key_cache"
  | compressedValueCache => "compressed_value_cache"
  | compressedPositions => "compressed_positions"
  | compressorPartialKv => "compressor_partial_kv"
  | compressorPartialScore => "compressor_partial_score"
  | compressorPartialPositions => "compressor_partial_positions"
  | indexerKeyCache => "indexer_key_cache"
  | indexerPositions => "indexer_positions"
  | indexerPartialKv => "indexer_partial_kv"
  | indexerPartialScore => "indexer_partial_score"
  | indexerPartialPositions => "indexer_partial_positions"
  | indexerQuery => "indexer_query"
  | indexerWeights => "indexer_weights"
  | indexerScores => "indexer_scores"
  | indexerTopkIndices => "indexer_topk_indices"

/-- The byte count of a piece; without an indexer its pieces have none. -/
def byteCount (layout : StateLayout) : StatePiece → Except String Nat
  | localKeyCache | localValueCache => layout.localVectorBytes
  | localPositions => layout.localMetadataBytes
  | compressedKeyCache | compressedValueCache => layout.compressedVectorBytes
  | compressedPositions => layout.compressedMetadataBytes
  | compressorPartialKv | compressorPartialScore => layout.compressorPartialVectorBytes
  | compressorPartialPositions => layout.compressorPartialMetadataBytes
  | indexerKeyCache => ifIndexer layout.indexerKeyBytes
  | indexerPositions => ifIndexer layout.indexerMetadataBytes
  | indexerPartialKv | indexerPartialScore => ifIndexer layout.indexerPartialVectorBytes
  | indexerPartialPositions => ifIndexer layout.indexerPartialMetadataBytes
  | indexerQuery => ifIndexer layout.indexerQueryBytes
  | indexerWeights => ifIndexer layout.indexerWeightsBytes
  | indexerScores => ifIndexer layout.indexerScoresBytes
  | indexerTopkIndices => ifIndexer layout.indexerTopkBytes
where
  ifIndexer (bytes : Except String Nat) : Except String Nat :=
    if layout.usesIndexer then bytes else .ok 0

end StatePiece

/-- A layer whose state is allocated, with the byte count of each buffer. -/
structure AllocatedLayer where
  layout : StateLayout
  bytes : StatePiece → Nat
  allocated : ∀ piece, StatePiece.byteCount layout piece = .ok (bytes piece)

/-- The four counters of a layer. -/
structure StateCounters where
  localValidCount : UInt32
  compressorPartialCount : UInt32
  compressedEntryCount : UInt32
  indexerCandidateCount : UInt32
  deriving Repr, DecidableEq

/-- The device buffers and counters of an allocated layer. -/
@[ext] structure DeviceState (layer : AllocatedLayer) where
  buffer : StatePiece → Bytes
  counters : StateCounters
  fits : ∀ piece, (buffer piece).length = layer.bytes piece

/-- `V4LayerStateSnapshot`. -/
structure StateSnapshot where
  piece : StatePiece → Bytes
  counters : StateCounters

/-- `copy_state_bytes` of an allocated buffer. -/
def copyStateBytes (bytes : Nat) (buffer : Bytes) : Bytes :=
  if bytes = 0 then [] else buffer

/-- The checks of `write_state_bytes`. -/
def writeStateBytes
    (bytes : Nat)
    (host : Bytes)
    (what : String) : Except String Unit :=
  if bytes = 0 then
    if host ≠ [] then
      .error ("V4Layer::restore_state: " ++ what ++
        " has no storage but the snapshot carries bytes")
    else
      .ok ()
  else if host.length ≠ bytes then
    .error ("V4Layer::restore_state: " ++ what ++ " snapshot is " ++
      toString host.length ++ " bytes, expected " ++ toString bytes)
  else
    .ok ()

theorem writeStateBytes_ok_iff
    {bytes : Nat}
    {host : Bytes}
    {what : String} :
    writeStateBytes bytes host what = .ok () ↔ host.length = bytes := by
  unfold writeStateBytes
  split
  · next none => simp [none]
  · simp

section Restore

variable {layer : AllocatedLayer}

/-- `snapshot_state`. -/
def snapshotState (state : DeviceState layer) : StateSnapshot where
  piece piece := copyStateBytes (layer.bytes piece) (state.buffer piece)
  counters := state.counters

/-- A buffer of a layer overwritten. -/
def DeviceState.write
    (state : DeviceState layer)
    (piece : StatePiece)
    (host : Bytes)
    (fits : host.length = layer.bytes piece) : DeviceState layer where
  buffer := Function.update state.buffer piece host
  counters := state.counters
  fits other := by
    by_cases same : other = piece
    · subst same
      rw [Function.update_self, fits]
    · rw [Function.update_of_ne same, state.fits]

/-- The writes of `restore_state`; an exception keeps the writes in front of it. -/
def writePieces
    (snapshot : StateSnapshot) :
    List StatePiece → DeviceState layer → Except String Unit × DeviceState layer
  | [], state => (.ok (), state)
  | piece :: rest, state =>
    match checked :
        writeStateBytes (layer.bytes piece) (snapshot.piece piece) piece.what with
    | .error message => (.error message, state)
    | .ok () =>
      writePieces snapshot rest
        (state.write piece (snapshot.piece piece) (writeStateBytes_ok_iff.mp checked))

variable (snapshot : StateSnapshot)

/-- `restore_state`. -/
def restoreState
    (state : DeviceState layer) : Except String Unit × DeviceState layer :=
  match writePieces snapshot StatePiece.order state with
  | (.error message, after) => (.error message, after)
  | (.ok (), after) => (.ok (), { after with counters := snapshot.counters })

/-! ## What a restore leaves -/

/-- A piece of a snapshot has the size of the layer's buffer. -/
def Fitting
    (layer : AllocatedLayer)
    (snapshot : StateSnapshot)
    (piece : StatePiece) : Prop :=
  (snapshot.piece piece).length = layer.bytes piece

instance (snapshot : StateSnapshot) : DecidablePred (Fitting layer snapshot) :=
  fun _ => inferInstanceAs (Decidable (_ = _))

/-- The pieces in front of the first one that does not fit. -/
def fittingFront
    (layer : AllocatedLayer)
    (snapshot : StateSnapshot)
    (pieces : List StatePiece) : List StatePiece :=
  pieces.takeWhile fun piece => decide (Fitting layer snapshot piece)

theorem writePieces_spec
    (pieces : List StatePiece)
    (state : DeviceState layer) :
    ((writePieces snapshot pieces state).1 = .ok () ↔
        ∀ piece ∈ pieces, Fitting layer snapshot piece) ∧
      (writePieces snapshot pieces state).2.counters = state.counters ∧
      ∀ piece, (writePieces snapshot pieces state).2.buffer piece =
        if piece ∈ fittingFront layer snapshot pieces then snapshot.piece piece
        else state.buffer piece := by
  induction pieces generalizing state with
  | nil => exact ⟨iff_of_true rfl nofun, rfl, fun _ => rfl⟩
  | cons first rest ih =>
    rw [writePieces]
    split
    · next message checked =>
      have misfit : ¬ Fitting layer snapshot first := by
        intro fitting
        rw [writeStateBytes_ok_iff.mpr fitting] at checked
        cases checked
      refine ⟨iff_of_false nofun fun all => misfit (all first List.mem_cons_self), rfl,
        fun piece => ?_⟩
      rw [fittingFront, List.takeWhile_cons_of_neg (by simp [misfit]),
        if_neg List.not_mem_nil]
    · next checked =>
      have fitting : Fitting layer snapshot first := writeStateBytes_ok_iff.mp checked
      obtain ⟨returns, counters, buffers⟩ :=
        ih (state.write first (snapshot.piece first) fitting)
      refine ⟨?_, counters, fun piece => ?_⟩
      · rw [returns, List.forall_mem_cons]
        exact (and_iff_right fitting).symm
      · rw [buffers, fittingFront, fittingFront,
          List.takeWhile_cons_of_pos (by simp [fitting])]
        simp only [DeviceState.write]
        by_cases same : piece = first
        · subst same
          rw [Function.update_self, ite_self, if_pos List.mem_cons_self]
        · rw [Function.update_of_ne same]
          simp only [List.mem_cons, same, false_or]

theorem snapshotState_piece
    (state : DeviceState layer)
    (piece : StatePiece) :
    (snapshotState state).piece piece = state.buffer piece := by
  simp only [snapshotState, copyStateBytes]
  split
  · next none => exact (List.eq_nil_of_length_eq_zero ((state.fits piece).trans none)).symm
  · rfl

/-- What a restore leaves, and when it returns. -/
theorem restoreState_spec
    (state : DeviceState layer) :
    ((restoreState snapshot state).1 = .ok () ↔
        ∀ piece, Fitting layer snapshot piece) ∧
      (restoreState snapshot state).2.counters =
        (if ∀ piece ∈ StatePiece.order, Fitting layer snapshot piece then snapshot.counters
        else state.counters) ∧
      ∀ piece, (restoreState snapshot state).2.buffer piece =
        if piece ∈ fittingFront layer snapshot StatePiece.order then snapshot.piece piece
        else state.buffer piece := by
  obtain ⟨returns, counters, buffers⟩ := writePieces_spec snapshot StatePiece.order state
  have all : (∀ piece ∈ StatePiece.order, Fitting layer snapshot piece) ↔
      ∀ piece, Fitting layer snapshot piece :=
    ⟨fun listed piece => listed piece piece.mem_order, fun every piece _ => every piece⟩
  rw [restoreState]
  split
  · next message after outcome =>
    rw [outcome] at returns counters buffers
    have misfit : ¬ ∀ piece ∈ StatePiece.order, Fitting layer snapshot piece :=
      fun every => nomatch returns.mpr every
    refine ⟨iff_of_false nofun (mt all.mpr misfit), ?_, buffers⟩
    rw [if_neg misfit]
    exact counters
  · next after outcome =>
    rw [outcome] at returns buffers
    have fitting := returns.mp rfl
    refine ⟨iff_of_true rfl (all.mp fitting), ?_, buffers⟩
    rw [if_pos fitting]

theorem restoreState_snapshotState (saved later : DeviceState layer) :
    restoreState (snapshotState saved) later = (.ok (), saved) := by
  have fitting (piece : StatePiece) : Fitting layer (snapshotState saved) piece :=
    (congrArg List.length (snapshotState_piece saved piece)).trans (saved.fits piece)
  obtain ⟨returns, counters, buffers⟩ := restoreState_spec (snapshotState saved) later
  have whole : fittingFront layer (snapshotState saved) StatePiece.order =
      StatePiece.order :=
    List.takeWhile_eq_self_iff.mpr fun piece _ => decide_eq_true (fitting piece)
  rw [if_pos fun piece _ => fitting piece] at counters
  refine Prod.ext (returns.mpr fitting) (DeviceState.ext (funext fun piece => ?_) counters)
  rw [buffers, whole, if_pos piece.mem_order, snapshotState_piece]

/-- When a restore that throws changes nothing. -/
theorem restoreState_unchanged_iff
    (state : DeviceState layer) :
    ((∃ message, (restoreState snapshot state).1 = .error message) →
        (restoreState snapshot state).2 = state) ↔
      (∀ piece, Fitting layer snapshot piece) ∨
        ∀ piece ∈ fittingFront layer snapshot StatePiece.order,
          snapshot.piece piece = state.buffer piece := by
  obtain ⟨returns, counters, buffers⟩ := restoreState_spec snapshot state
  by_cases fitting : ∀ piece, Fitting layer snapshot piece
  · refine iff_of_true ?_ (Or.inl fitting)
    rintro ⟨message, thrown⟩
    rw [returns.mpr fitting] at thrown
    cases thrown
  · have thrown : ∃ message, (restoreState snapshot state).1 = .error message := by
      cases result : (restoreState snapshot state).1 with
      | ok done => exact absurd (returns.mp result) fitting
      | error message => exact ⟨message, rfl⟩
    rw [forall_prop_of_true thrown, or_iff_right fitting]
    constructor
    · intro unchanged piece listed
      rw [unchanged] at buffers
      rw [buffers piece, if_pos listed]
    · intro same
      refine DeviceState.ext (funext fun piece => ?_) ?_
      · rw [buffers]
        split
        · next listed => exact same piece listed
        · rfl
      · rw [counters, if_neg]
        exact fun every => fitting fun piece => every piece piece.mem_order

end Restore

/-! ## Continuing a layer -/

section Continuing

variable {layer : AllocatedLayer}

/-- A row of a buffer. -/
def rowAt (buffer : Bytes) (width slot : Nat) : Bytes :=
  (buffer.drop (slot * width)).take width

/-- A label of a buffer. -/
def labelAt (buffer : Bytes) (slot : Nat) : Int :=
  (BitVec.ofNat 64 (LittleEndian.readAt 8 buffer (slot * 8))).toInt

/-- What the layer's device state is to the layer body. -/
def DeviceState.layerState (state : DeviceState layer) : LayerState Bytes :=
  let ring (kv score positions : StatePiece) (width : Nat) : PartialRing Bytes :=
    { rows := fun slot =>
        ⟨rowAt (state.buffer kv) (width * 4) slot, rowAt (state.buffer score) (width * 4) slot⟩
      positions := labelAt (state.buffer positions) }
  -- A local or a compressed row is its key with its value.
  let cache (keys values : StatePiece) (slot : Nat) : Bytes :=
    rowAt (state.buffer keys) (layer.layout.headDim * 2) slot ++
      rowAt (state.buffer values) (layer.layout.headDim * 2) slot
  { localKeys := cache .localKeyCache .localValueCache
    localPositions := labelAt (state.buffer .localPositions)
    compressor := ring .compressorPartialKv .compressorPartialScore
      .compressorPartialPositions layer.layout.compressorWidth
    compressedKeys := cache .compressedKeyCache .compressedValueCache
    compressedPositions := labelAt (state.buffer .compressedPositions)
    indexer := ring .indexerPartialKv .indexerPartialScore .indexerPartialPositions
      layer.layout.indexerWidth
    indexerKeys := rowAt (state.buffer .indexerKeyCache) (layer.layout.indexHeadDim * 2)
    indexerPositions := labelAt (state.buffer .indexerPositions)
    localValidCount := state.counters.localValidCount.toNat
    compressorPartialCount := state.counters.compressorPartialCount.toNat
    compressedEntryCount := state.counters.compressedEntryCount.toNat
    indexerCandidateCount := state.counters.indexerCandidateCount.toNat }

variable {Score Residual : Type} [LinearOrder Score]

/-- A way to go on: one token, or a chunk of tokens on a scratch of some sizes. -/
inductive Continuation (Residual : Type) where
  | decode (token position : Nat) (residual : Residual)
  | chunk
      (sizes : PrefillWorkspace.BatchScratch)
      (start : Nat)
      (inputs : List (Nat × Residual))

/-- The states a layer goes through and its outputs, up to an exception. -/
def continueLayer
    (model : ModelLayer Bytes Score Residual) :
    List (Continuation Residual) → LayerState Bytes →
      List (Except String (LayerState Bytes × List Residual))
  | [], _ => []
  | .decode token position residual :: rest, state =>
    match model.decodeBody state token position residual with
    | .error message => [.error message]
    | .ok (next, output) => .ok (next, [output]) :: continueLayer model rest next
  | .chunk sizes start inputs :: rest, state =>
    match model.chunkBody sizes state start inputs with
    | .error message => [.error message]
    | .ok (next, outputs) => .ok (next, outputs) :: continueLayer model rest next

/--
A restored snapshot brings back every buffer and counter, so every continuation goes as
it did, and a restore that throws changes nothing if and only if no piece was refused or
the pieces in front of the first refused one hold the snapshot's bytes already.
-/
theorem restoreState_exact_and_unchanged_iff
    (model : ModelLayer Bytes Score Residual)
    (saved later : DeviceState layer) :
    (restoreState (snapshotState saved) later = (.ok (), saved) ∧
        ∀ continuation,
          continueLayer model continuation
              (restoreState (snapshotState saved) later).2.layerState =
            continueLayer model continuation saved.layerState) ∧
      ∀ snapshot,
        ((∃ message, (restoreState snapshot later).1 = .error message) →
            (restoreState snapshot later).2 = later) ↔
          (∀ piece, Fitting layer snapshot piece) ∨
            ∀ piece ∈ fittingFront layer snapshot StatePiece.order,
              snapshot.piece piece = later.buffer piece := by
  refine ⟨⟨restoreState_snapshotState saved later, fun continuation => ?_⟩,
    fun snapshot => restoreState_unchanged_iff snapshot later⟩
  rw [restoreState_snapshotState]

end Continuing

/-- A sliding layer of one slot and one dimension. -/
def smallLayer : AllocatedLayer where
  layout := { maxSeqLen := 1, localCapacity := 1, headDim := 1 }
  bytes
    | .localKeyCache | .localValueCache => 2
    | .localPositions => 8
    | _ => 0
  allocated piece := by cases piece <;> rfl

/-- Its state, with the same bytes everywhere. -/
def smallState (byte : UInt8) : DeviceState smallLayer where
  buffer piece := List.replicate (smallLayer.bytes piece) byte
  counters := ⟨1, 0, 0, 0⟩
  fits _ := List.length_replicate

/-- A snapshot whose positions are a byte short is refused behind two written pieces. -/
theorem shortPositions_not_unchanged :
    ¬ ∀ (layer : AllocatedLayer) (snapshot : StateSnapshot) (state : DeviceState layer),
      (∃ message, (restoreState snapshot state).1 = .error message) →
        (restoreState snapshot state).2 = state := by
  intro unchanged
  let short : StateSnapshot :=
    { piece := fun piece =>
        if piece = .localPositions then List.replicate 7 0
        else (smallState 1).buffer piece
      counters := ⟨1, 0, 0, 0⟩ }
  have same := unchanged smallLayer short (smallState 0) ⟨_, rfl⟩
  have changed := congrArg (fun state => state.buffer .localKeyCache) same
  exact absurd changed (by decide)

end Aeon.Attention
