import Aeon.AttentionTile

namespace Aeon.Attention

open PrefillWorkspace (maxTokens)

/-!
# The layer body

A layer run for one token at a time (`run_layer_body_decoding`) and for a chunk of
tokens (`run_layer_body_chunk`), with the tiled attention and the grouped experts
switched off.  What a row goes through on its own is a pure function of the row; the
two bodies differ in the order of the rows, in where a key is kept until the ring may
move, and in the rows the attention kernel is handed.
-/

variable {Row Score Residual : Type} [LinearOrder Score]

/-! ## A layer -/

/-- The stages of a layer that act on a row, and its attention kernels. -/
structure LayerStages (Row Residual : Type) where
  /-- The mix, norms and projections of a token, rotated at its position. -/
  project : Nat → Nat → Residual → ProjectedRow Row
  attendSliding : Row → List Row → Row
  attendCompressed : Row → List Row → List Row → Row
  /-- From the attention's output to the layer's: output projection, router, experts. -/
  finish : Nat → Nat → Residual → Row → Residual

/-- The indexer's buffers of a decoding layer. -/
structure DecodeBuffers (Score : Type) where
  indexerScores : Nat → Score
  indexerTopk : Nat → Int

/--
A layer with what it was built from.  The buffers are what they happen to hold before
the token, or the chunk, at a position.
-/
structure ModelLayer (Row Score Residual : Type) [LinearOrder Score] where
  layout : LayerLayout
  arithmetic : LayerArithmetic Row Score
  stages : LayerStages Row Residual
  decodeBuffers : Nat → DecodeBuffers Score
  contents : Nat → ScratchContents Row Score

namespace ModelLayer

variable (layer : ModelLayer Row Score Residual)

/-! ## The attention kernels -/

/-- The rows a kernel keeps of the local ones it is given. -/
def attendedLocal
    (keys : Nat → Row)
    (positions : Nat → Int)
    (rows position : Nat) : List Row :=
  (List.range rows).filterMap fun slot =>
    let start : Int := max 0 ((position : Int) - rows + 1)
    if start ≤ positions slot ∧ positions slot ≤ position then
      some (keys slot)
    else
      none

/-- The compressed rows a kernel keeps; CSA gives it a selection. -/
def attendedCompressed
    (state : LayerState Row)
    (position committed : Nat)
    (selection : Nat → Int) : List Row :=
  let usesIndexer := layer.layout.kind = .csa
  let slots := if usesIndexer then min committed layer.layout.indexTopk else committed
  (List.range slots).filterMap fun index =>
    let entry := if usesIndexer then selection index else index
    if (0 ≤ entry ∧ entry < committed) ∧
        state.compressedPositions entry.toNat ≤ position then
      some (state.compressedKeys entry.toNat)
    else
      none

/-- `run_layer_body_attention_kernel` on local rows and the layer's entries. -/
def attentionKernel
    (state : LayerState Row)
    (localRows : TileRows Row)
    (query : Row)
    (position committed : Nat)
    (selection : Nat → Int) : Row :=
  let kept := attendedLocal localRows.keys localRows.positions localRows.rows position
  if layer.layout.kind = .sliding then
    layer.stages.attendSliding query kept
  else
    layer.stages.attendCompressed query kept
      (layer.attendedCompressed state position committed selection)

/-! ## One token -/

/-- `run_layer_body_decoding`. -/
def decodeBody
    (state : LayerState Row)
    (token position : Nat)
    (residual : Residual) : Except String (LayerState Row × Residual) := do
  let row := layer.stages.project token position residual
  let (after, committed) ←
    preAttentionTail layer.layout layer.arithmetic false state row position
  let buffers := layer.decodeBuffers position
  let selection :=
    if layer.layout.kind = .csa then
      selectIndexerTopk layer.layout layer.arithmetic
        (rowScores layer.arithmetic after row committed buffers.indexerScores)
        committed 0 buffers.indexerTopk
    else
      buffers.indexerTopk
  -- Decode hands the kernel the ring itself, slot by slot.
  let ring : TileRows Row :=
    ⟨after.localKeys, after.localPositions, layer.layout.localCapacity⟩
  let output := layer.attentionKernel after ring row.query position committed selection
  .ok (after, layer.stages.finish token position residual output)

/-! ## A chunk -/

/-- The projections of the rows of a chunk. -/
def projectRows : Nat → List (Nat × Residual) → List (ProjectedRow Row)
  | _, [] => []
  | position, (token, residual) :: rest =>
    layer.stages.project token position residual :: projectRows (position + 1) rest

/-- `compose_local_rows` with its kernel: row `r` is the ring's slot `r`. -/
def composeLocalRows
    (scratch : BatchScratch Row Score)
    (state : LayerState Row)
    (chunkKeys : Nat → Row)
    (start chunkRow queryPosition : Nat) : Except String (TileRows Row) :=
  let capacity := layer.layout.localCapacity
  let first := queryPosition + 1 - capacity
  let rows := queryPosition + 1 - first
  if scratch.sizes.maxComposedRows < rows then
    .error "compose_local_rows: row-set exceeds the workspace"
  else if start ≤ queryPosition ∧ chunkRow < queryPosition - start then
    .error "compose_local_rows: a query cannot read a key that is not yet written"
  else
    .ok
      { keys := fun row =>
          if row < rows then
            let position := PositionRing.slotPosition capacity first row
            if position < start then
              state.localKeys row
            else
              chunkKeys (position - start)
          else
            scratch.composedKeys row
        positions := fun row =>
          if row < rows then
            (PositionRing.slotPosition capacity first row : Int)
          else
            scratch.composedPositions row
        rows := rows }

/-- The attention and the rest of the rows of a chunk, from a row on. -/
def finishRows
    (scratch : BatchScratch Row Score)
    (state : LayerState Row)
    (chunkKeys : Nat → Row)
    (topk : Nat → Int)
    (start : Nat) :
    Nat → List (Nat × Residual) → List (ProjectedRow Row) →
      Except String (List Residual)
  | index, (token, residual) :: rest, row :: rows => do
      let position := start + index
      let composed ←
        layer.composeLocalRows scratch state chunkKeys start index position
      let committed := layer.layout.committedEntriesFor position
      let output := layer.attentionKernel state composed row.query position committed
        fun slot => topk (index * scratch.sizes.indexTopkPerToken + slot)
      let others ← finishRows scratch state chunkKeys topk start (index + 1) rest rows
      .ok (layer.stages.finish token position residual output :: others)
  | _, _, _ => .ok []

/-- `run_layer_body_chunk` with the tile off, on a scratch of some sizes. -/
def chunkBody
    (sizes : PrefillWorkspace.BatchScratch)
    (state : LayerState Row)
    (start : Nat)
    (inputs : List (Nat × Residual)) : Except String (LayerState Row × List Residual) := do
  let scratch : BatchScratch Row Score := { layer.contents start with sizes := sizes }
  if inputs.length = 0 then
    .ok (state, [])
  else if maxTokens < inputs.length ∨ sizes.tokenCount < inputs.length then
    .error "run_layer_body_chunk: chunk exceeds the workspace"
  else
    let rows := layer.projectRows start inputs
    -- Phase 1: every key is produced and none touches the ring.
    let (after, _) ← chunkTail layer.layout layer.arithmetic state start rows
    let keys := rows.map ProjectedRow.key
    let topk := chunkIndexerSelect layer.layout layer.arithmetic scratch after start rows
    -- Phase 2: every query attends, on the ring as it was.
    let residuals ← layer.finishRows scratch after
      (fun index => keys.getD index (scratch.chunkKeys index)) topk start 0 inputs rows
    .ok (commitKeys layer.layout after start keys, residuals)

end ModelLayer

end Aeon.Attention
