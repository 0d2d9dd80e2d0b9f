import Mathlib.Logic.Function.Basic
import Mathlib.Order.Basic
import Mathlib.Algebra.Group.Nat.Defs
import Mathlib.Order.Lattice

namespace Aeon.Attention

open Function (update)

/-!
# The generation state of a layer

The local key ring, the compressor with its partial ring, and the compressed entries
of one decoder layer, with the pre-attention tail that advances them by a token.  A
row of a device buffer is a value of `Row`, and the arithmetic on rows is a parameter:
what matters here is which row is read and written where.  Positions are labels in
the device buffers, -1 where nothing was written since the reset.
-/

/-- `V4AttentionKind`. -/
inductive AttentionKind where
  | sliding
  | csa
  | hca
  deriving Repr, DecidableEq

/-- The compression ratio `V4LayerStateLayout::from_spec` requires of a kind. -/
def AttentionKind.compressionRatio : AttentionKind → Nat
  | .sliding => 0
  | .csa => 4
  | .hca => 128

/--
`V4LayerStateLayout`, as far as it is read.  The memory budget refuses a context over
the model's `max_position_embeddings`.
-/
structure LayerLayout where
  kind : AttentionKind
  maxSeqLen : Nat
  localCapacity : Nat
  indexTopk : Nat
  ring : 0 < localCapacity
  /-- `max_position_embeddings`; far below it `compressed_capacity` could not wrap. -/
  context : maxSeqLen ≤ 1048576
  deriving Repr, DecidableEq

namespace LayerLayout

variable (layout : LayerLayout)

def compressionRatio : Nat :=
  layout.kind.compressionRatio

/-- `compressed_capacity`, a `uint32_t`. -/
def compressedCapacity : Nat :=
  (layout.maxSeqLen + layout.compressionRatio - 1) % 2 ^ 32 / layout.compressionRatio

/-- The width of a partial row in head dimensions. -/
def coefficient : Nat :=
  if layout.compressionRatio = 4 then 2 else 1

/-- `compressor_partial_capacity`; the causal window of an entry is as long. -/
def partialCapacity : Nat :=
  layout.coefficient * layout.compressionRatio

/-- `committed_entries_for`. -/
def committedEntriesFor (position : Nat) : Nat :=
  if layout.compressionRatio = 0 then
    0
  else
    min layout.compressedCapacity ((position + 1) / layout.compressionRatio)

end LayerLayout

/-! ## Rows and state -/

/-- A row of the compressor: its values and its scores. -/
structure CompressorRow (Row : Type) where
  kv : Row
  score : Row

/-- What the projections of a token leave in its scratch row. -/
structure ProjectedRow (Row : Type) where
  query : Row
  key : Row
  compressor : CompressorRow Row
  indexerQuery : Row
  indexerWeights : Row
  indexerCompressor : CompressorRow Row

/-- The arithmetic of a compressor. -/
structure Compressor (Row : Type) where
  /-- The positional term of a place in the ratio window, added to a score. -/
  addApe : Nat → Row → Row
  /-- The entry of a rope position from the rows of its window with their segments. -/
  reduce : Nat → List (Nat × CompressorRow Row) → Row

/-- The arithmetic of a layer; the scores of the indexer are finite. -/
structure LayerArithmetic (Row Score : Type) [LinearOrder Score] where
  compressor : Compressor Row
  indexer : Compressor Row
  score : Row → Row → Row → Score
  floor : Score
  finite : ∀ query weights key, floor < score query weights key

/-- The partial rows of a compressor, by slot. -/
structure PartialRing (Row : Type) where
  rows : Nat → CompressorRow Row
  positions : Nat → Int

/-- The buffers and counters of a `V4Layer`; values are the same rows as keys. -/
structure LayerState (Row : Type) where
  localKeys : Nat → Row
  localPositions : Nat → Int
  compressor : PartialRing Row
  compressedKeys : Nat → Row
  compressedPositions : Nat → Int
  indexer : PartialRing Row
  indexerKeys : Nat → Row
  indexerPositions : Nat → Int
  localValidCount : Nat
  compressorPartialCount : Nat
  compressedEntryCount : Nat
  indexerCandidateCount : Nat

variable {Row Score : Type} [LinearOrder Score]

/-- `reset_generation_state`. -/
def resetGenerationState (zero : Row) : LayerState Row where
  localKeys _ := zero
  localPositions _ := -1
  compressor := ⟨fun _ => ⟨zero, zero⟩, fun _ => -1⟩
  compressedKeys _ := zero
  compressedPositions _ := -1
  indexer := ⟨fun _ => ⟨zero, zero⟩, fun _ => -1⟩
  indexerKeys _ := zero
  indexerPositions _ := -1
  localValidCount := 0
  compressorPartialCount := 0
  compressedEntryCount := 0
  indexerCandidateCount := 0

/-! ## The compressor -/

section Compressor

variable (layout : LayerLayout) (compressor : Compressor Row)

/-- A row as the compressor keeps it. -/
def savedRow
    (position : Nat)
    (row : CompressorRow Row) : CompressorRow Row :=
  ⟨row.kv, compressor.addApe (position % layout.compressionRatio) row.score⟩

/-- `v4_save_compressor_state_kernel`. -/
def saveCompressorState
    (ring : PartialRing Row)
    (position : Nat)
    (row : CompressorRow Row) : PartialRing Row where
  rows := update ring.rows (position % layout.partialCapacity)
    (savedRow layout compressor position row)
  positions := update ring.positions (position % layout.partialCapacity)
    position

/-- The row an offset of the causal window contributes, if its slot still holds it. -/
def windowRow
    (ring : PartialRing Row)
    (boundary offset : Nat) : Option (Nat × CompressorRow Row) :=
  let source : Int := boundary - layout.partialCapacity + 1 + offset
  if source < 0 then
    none
  else
    let slot := source.toNat % layout.partialCapacity
    if ring.positions slot ≠ source then
      none
    else
      some (offset / layout.compressionRatio, ring.rows slot)

/-- `v4_materialize_compressed_entry_kernel`: the row it stores. -/
def materializeCompressedEntry
    (ring : PartialRing Row)
    (boundary : Nat) : Row :=
  compressor.reduce (boundary / layout.compressionRatio * layout.compressionRatio)
    ((List.range layout.partialCapacity).filterMap (windowRow layout ring boundary))

end Compressor

/-! ## The pre-attention tail -/

section Tail

variable (layout : LayerLayout) (arithmetic : LayerArithmetic Row Score)

variable (state : LayerState Row)

/-- The write of a key into its slot of the local ring. -/
def writeLocal
    (position : Nat)
    (key : Row) : LayerState Row :=
  { state with
    localKeys := update state.localKeys (position % layout.localCapacity) key
    localPositions := update state.localPositions
      (position % layout.localCapacity) position }

/-- The counters after a position. -/
def recordedPosition
    (position : Nat) : LayerState Row :=
  let recorded :=
    { state with localValidCount := min layout.localCapacity (position + 1) }
  if layout.compressionRatio = 0 then
    recorded
  else
    let entries :=
      min layout.compressedCapacity ((position + 1) / layout.compressionRatio)
    { recorded with
      compressorPartialCount := min layout.partialCapacity (position + 1)
      compressedEntryCount := entries
      indexerCandidateCount := if layout.kind = .csa then entries else 0 }

/-- `record_position`. -/
def recordPosition
    (position : Nat) : Except String (LayerState Row) :=
  if layout.maxSeqLen ≤ position then
    .error "V4Layer: position exceeds configured context capacity"
  else
    .ok (recordedPosition layout state position)

/-- The partial rows after a position. -/
def savedPosition
    (row : ProjectedRow Row)
    (position : Nat) : LayerState Row :=
  let saved :=
    { state with
      compressor := saveCompressorState layout arithmetic.compressor state.compressor
        position row.compressor }
  if layout.kind = .csa then
    { saved with
      indexer := saveCompressorState layout arithmetic.indexer state.indexer position
        row.indexerCompressor }
  else
    saved

/-- The entry that the boundary of a ratio window completes. -/
def emittedEntry
    (position : Nat) : LayerState Row :=
  let index := (position + 1) / layout.compressionRatio - 1
  let emitted :=
    { state with
      compressedKeys := update state.compressedKeys index
        (materializeCompressedEntry layout arithmetic.compressor state.compressor
          position)
      compressedPositions := update state.compressedPositions index position }
  if layout.kind = .csa then
    { emitted with
      indexerKeys := update state.indexerKeys index
        (materializeCompressedEntry layout arithmetic.indexer state.indexer position)
      indexerPositions := update state.indexerPositions index position }
  else
    emitted

/-- The compressed half of the tail. -/
def feedCompressor
    (row : ProjectedRow Row)
    (position : Nat) : LayerState Row :=
  if layout.compressionRatio = 0 then
    state
  else
    let saved := savedPosition layout arithmetic state row position
    if (position + 1) % layout.compressionRatio = 0 then
      emittedEntry layout arithmetic saved position
    else
      saved

/--
`run_pre_attention_tail`, less the indexer's selection: the state and the number of
committed entries.  A chunk defers the write of the key.
-/
def preAttentionTail
    (deferKeyWrite : Bool)
    (state : LayerState Row)
    (row : ProjectedRow Row)
    (position : Nat) : Except String (LayerState Row × Nat) := do
  let written := if deferKeyWrite then state else writeLocal layout state position row.key
  let recorded ← recordPosition layout written position
  .ok (feedCompressor layout arithmetic recorded row position,
    layout.committedEntriesFor position)

/-- The loop over the rows of a chunk, keys deferred. -/
def chunkTail
    (state : LayerState Row)
    (position : Nat) :
    List (ProjectedRow Row) → Except String (LayerState Row × List Nat)
  | [] => .ok (state, [])
  | row :: rest => do
      let (next, committed) ← preAttentionTail layout arithmetic true state row position
      let (last, others) ← chunkTail next (position + 1) rest
      .ok (last, committed :: others)

/-- The commit of a chunk's keys to the ring. -/
def commitKeys
    (state : LayerState Row)
    (position : Nat) : List Row → LayerState Row
  | [] => state
  | key :: rest => commitKeys (writeLocal layout state position key) (position + 1) rest

/-- What a chunk leaves of its layer: the tail of every row, then the commit. -/
def chunkState
    (position : Nat)
    (rows : List (ProjectedRow Row)) : Except String (LayerState Row) := do
  let (last, _) ← chunkTail layout arithmetic state position rows
  .ok (commitKeys layout last position (rows.map ProjectedRow.key))

end Tail

/-! ## A chunk leaves the state of its tokens one by one -/

section Advance

variable (layout : LayerLayout) (arithmetic : LayerArithmetic Row Score)

variable (state : LayerState Row)

/-- The state after a token, its key apart. -/
def advanced
    (row : ProjectedRow Row)
    (position : Nat) : LayerState Row :=
  feedCompressor layout arithmetic (recordedPosition layout state position) row position

/-- The state after a token. -/
def fed
    (row : ProjectedRow Row)
    (position : Nat) : LayerState Row :=
  advanced layout arithmetic (writeLocal layout state position row.key) row position

variable {layout} {arithmetic}

variable {state : LayerState Row}
variable {position : Nat}
variable {rows : List (ProjectedRow Row)}

theorem preAttentionTail_inside
    {deferKeyWrite : Bool}
    {row : ProjectedRow Row}
    (inside : position < layout.maxSeqLen) :
    preAttentionTail layout arithmetic deferKeyWrite state row position =
      .ok (advanced layout arithmetic
        (if deferKeyWrite then state else writeLocal layout state position row.key) row
        position, layout.committedEntriesFor position) := by
  unfold preAttentionTail recordPosition
  simp only
  rw [if_neg (Nat.not_le.mpr inside)]
  rfl

theorem preAttentionTail_outside
    {deferKeyWrite : Bool}
    {row : ProjectedRow Row}
    (outside : layout.maxSeqLen ≤ position) :
    preAttentionTail layout arithmetic deferKeyWrite state row position =
      .error "V4Layer: position exceeds configured context capacity" := by
  unfold preAttentionTail recordPosition
  simp only
  rw [if_pos outside]
  rfl

theorem advanced_writeLocal
    (row : ProjectedRow Row)
    (position written : Nat)
    (key : Row) :
    advanced layout arithmetic (writeLocal layout state written key) row position =
      writeLocal layout (advanced layout arithmetic state row position) written key := by
  unfold advanced feedCompressor recordedPosition savedPosition emittedEntry
  split_ifs <;> rfl

/-- The state after the tail of a list of rows. -/
def advancedRows
    (layout : LayerLayout)
    (arithmetic : LayerArithmetic Row Score)
    (state : LayerState Row)
    (position : Nat) : List (ProjectedRow Row) → LayerState Row
  | [] => state
  | row :: rest =>
    advancedRows layout arithmetic (advanced layout arithmetic state row position)
      (position + 1) rest

/-- The state after a list of tokens. -/
def fedRows
    (layout : LayerLayout)
    (arithmetic : LayerArithmetic Row Score)
    (state : LayerState Row)
    (position : Nat) : List (ProjectedRow Row) → LayerState Row
  | [] => state
  | row :: rest =>
    fedRows layout arithmetic (fed layout arithmetic state row position)
      (position + 1) rest

theorem chunkTail_inside
    {rows : List (ProjectedRow Row)}
    {state : LayerState Row}
    {position : Nat}
    (inside : position + rows.length ≤ layout.maxSeqLen) :
    chunkTail layout arithmetic state position rows =
      .ok (advancedRows layout arithmetic state position rows,
        (List.range' position rows.length).map layout.committedEntriesFor) := by
  induction rows generalizing state position with
  | nil => rfl
  | cons row rest ih =>
    rw [List.length_cons] at inside
    unfold chunkTail
    rw [preAttentionTail_inside (by omega)]
    simp only [bind, Except.bind, if_true]
    rw [ih (by omega)]
    rfl

/-- The loop returns only within the context. -/
theorem chunkTail_ok
    {result : LayerState Row × List Nat}
    (returned : chunkTail layout arithmetic state position rows = .ok result) :
    rows = [] ∨ position + rows.length ≤ layout.maxSeqLen := by
  induction rows generalizing state position result with
  | nil => exact .inl rfl
  | cons row rest ih =>
    unfold chunkTail at returned
    rcases Nat.lt_or_ge position layout.maxSeqLen with inside | outside
    · rw [preAttentionTail_inside inside] at returned
      simp only [bind, Except.bind] at returned
      split at returned
      · exact nomatch returned
      next result tail =>
        rw [List.length_cons]
        rcases ih tail with rfl | later
        · exact .inr inside
        · exact .inr (by omega)
    · rw [preAttentionTail_outside outside] at returned
      exact nomatch returned

theorem advancedRows_writeLocal
    (rows : List (ProjectedRow Row))
    (state : LayerState Row)
    (position written : Nat)
    (key : Row) :
    advancedRows layout arithmetic (writeLocal layout state written key) position rows =
      writeLocal layout (advancedRows layout arithmetic state position rows) written
        key := by
  induction rows generalizing state position with
  | nil => rfl
  | cons row rest ih =>
    unfold advancedRows
    rw [advanced_writeLocal, ih]

/-- Keys committed behind a chunk leave what its tokens one by one leave. -/
theorem commitKeys_advancedRows
    (rows : List (ProjectedRow Row))
    (state : LayerState Row)
    (position : Nat) :
    commitKeys layout (advancedRows layout arithmetic state position rows) position
        (rows.map ProjectedRow.key) =
      fedRows layout arithmetic state position rows := by
  induction rows generalizing state position with
  | nil => rfl
  | cons row rest ih =>
    rw [List.map_cons, commitKeys, advancedRows, fedRows, ← ih, fed,
      advanced_writeLocal, advancedRows_writeLocal]

theorem chunkState_ok
    {state next : LayerState Row}
    (returned : chunkState layout arithmetic state position rows = .ok next) :
    next = fedRows layout arithmetic state position rows := by
  unfold chunkState at returned
  simp only [bind, Except.bind] at returned
  split at returned
  · exact nomatch returned
  next result tail =>
    have whole : result = (advancedRows layout arithmetic state position rows,
        (List.range' position rows.length).map layout.committedEntriesFor) := by
      rcases chunkTail_ok tail with rfl | inside
      · exact (Except.ok.inj tail).symm
      · rw [chunkTail_inside inside] at tail
        exact (Except.ok.inj tail).symm
    have same := Except.ok.inj returned
    rw [← same, whole]
    exact commitKeys_advancedRows rows state position

/-- A chunk within the context returns. -/
theorem chunkState_inside
    (inside : position + rows.length ≤ layout.maxSeqLen) :
    chunkState layout arithmetic state position rows =
      .ok (fedRows layout arithmetic state position rows) := by
  unfold chunkState
  rw [chunkTail_inside inside, ← commitKeys_advancedRows]
  rfl

end Advance

end Aeon.Attention
