import Aeon.IndexerTopk
import Aeon.LayerHistory
import Aeon.PrefillWorkspace
import Aeon.WarpCompaction

namespace Aeon.Attention

open WarpCompaction
open PrefillWorkspace (maxTokens LayerCapacities)

/-!
# The keys of a tiled attention

One launch serves every query of a chunk.  The queries share the union of their local
rows and the compressed entries that exist when the chunk's last token is in, and the
head-group kernel compacts from these the keys of its own query.  A query keeps a row
by the position the row is labelled with.
-/

variable {Row Score : Type} [LinearOrder Score]

/-! ## The launch -/

/-- What the scratch of the batch reads of a layout. -/
def LayerLayout.capacities (layout : LayerLayout) : LayerCapacities where
  compressedCapacity := layout.compressedCapacity
  indexTopk := layout.indexTopk
  localCapacity := layout.localCapacity

/-- What the buffers of the scratch hold before a chunk. -/
structure ScratchContents (Row Score : Type) where
  chunkKeys : Nat → Row
  composedKeys : Nat → Row
  composedPositions : Nat → Int
  indexerScores : Nat → Score
  indexerTopk : Nat → Int
  /-- The row whose thread writes a cell of the scores last, if several do. -/
  landing : Nat → Nat

/--
`V4LayerBodyBatchScratch`: its sizes and its contents.  The score rows lie in one
buffer, `indexScoresPerToken` apart, and the selections `indexTopkPerToken` apart.  A
cell behind a buffer is taken for memory of its own.
-/
structure BatchScratch (Row Score : Type) extends ScratchContents Row Score where
  sizes : PrefillWorkspace.BatchScratch

/-- The union of a tile's local rows. -/
structure TileRows (Row : Type) where
  keys : Nat → Row
  positions : Nat → Int
  rows : Nat

/-- `CausalAttentionBlock`, less the strides. -/
structure CausalAttentionBlock (Row : Type) where
  keys : Nat → Row
  positions : Nat → Int
  rows : Nat
  window : Nat

/-- The selections of the queries, one behind the other. -/
structure PerQueryKeys where
  keys : Nat → Int
  count : Nat

/-- The arguments of one head-group launch. -/
structure AttentionTile (Row : Type) where
  block0 : CausalAttentionBlock Row
  block1 : CausalAttentionBlock Row
  perQuery : Option PerQueryKeys
  queryPositionBase : Nat

section Launch

variable (layout : LayerLayout) (arithmetic : LayerArithmetic Row Score)

/-- A row of `v4_indexer_scores_batch_kernel`; only committed entries are scored. -/
def rowScores
    (state : LayerState Row)
    (row : ProjectedRow Row)
    (committed : Nat)
    (stale : Nat → Score) : Nat → Score :=
  fun candidate =>
    if candidate < committed then
      arithmetic.score row.indexerQuery row.indexerWeights (state.indexerKeys candidate)
    else
      stale candidate

/-- `select_indexer_topk` into the part of a buffer that starts at `base`. -/
def selectIndexerTopk
    (scores : Nat → Score)
    (candidateCount base : Nat)
    (buffer : Nat → Int) : Nat → Int :=
  if candidateCount = 0 then
    buffer
  else
    let chosen := indexerTopk arithmetic.floor scores candidateCount layout.indexTopk
    fun index =>
      if base ≤ index ∧ index < base + layout.indexTopk then
        chosen.getD (index - base) (-1)
      else
        buffer index

/-- What the launch's row of an index writes to a cell of the scores, if it does. -/
def cellScore
    (scratch : BatchScratch Row Score)
    (state : LayerState Row)
    (start : Nat)
    (rows : List (ProjectedRow Row))
    (cell index : Nat) : Option Score :=
  let base := index * scratch.sizes.indexScoresPerToken
  match rows[index]? with
  | none => none
  | some row =>
    if base ≤ cell ∧ cell < base + layout.committedEntriesFor (start + index) then
      some (arithmetic.score row.indexerQuery row.indexerWeights
        (state.indexerKeys (cell - base)))
    else
      none

/-- `v4_indexer_scores_batch_kernel` over the rows of a chunk. -/
def chunkIndexerScores
    (scratch : BatchScratch Row Score)
    (state : LayerState Row)
    (start : Nat)
    (rows : List (ProjectedRow Row)) : Nat → Score :=
  fun cell =>
    ((scratch.landing cell :: List.range rows.length).findSome?
        (cellScore layout arithmetic scratch state start rows cell)).getD
      (scratch.indexerScores cell)

/-- The selections of `count` rows from a row on, one launch after the other. -/
def selectRows
    (sizes : PrefillWorkspace.BatchScratch)
    (scores : Nat → Score)
    (start : Nat) : Nat → Nat → (Nat → Int) → Nat → Int
  | _, 0, buffer => buffer
  | index, count + 1, buffer =>
    selectRows sizes scores start (index + 1) count
      (selectIndexerTopk layout arithmetic
        (fun candidate => scores (index * sizes.indexScoresPerToken + candidate))
        (layout.committedEntriesFor (start + index)) (index * sizes.indexTopkPerToken)
        buffer)

/-- `run_chunk_indexer_select_batch`: the index buffer it leaves. -/
def chunkIndexerSelect
    (scratch : BatchScratch Row Score)
    (state : LayerState Row)
    (start : Nat)
    (rows : List (ProjectedRow Row)) : Nat → Int :=
  if layout.kind = .csa then
    selectRows layout arithmetic scratch.sizes
      (chunkIndexerScores layout arithmetic scratch state start rows) start 0 rows.length
      scratch.indexerTopk
  else
    scratch.indexerTopk

/-- `compose_tile_rows` with its kernel, for the whole chunk. -/
def composeTileRows
    (scratch : BatchScratch Row Score)
    (state : LayerState Row)
    (chunkKeys : Nat → Row)
    (start tileRows : Nat) : Except String (TileRows Row) :=
  let capacity := layout.localCapacity
  let first := start + 1 - capacity
  let rows := start + tileRows - first
  if scratch.sizes.maxComposedRows < rows then
    .error "compose_tile_rows: row-set exceeds the workspace"
  else
    .ok
      { keys := fun row =>
          if row < rows then
            let position := first + row
            if position < start then
              state.localKeys (position % capacity)
            else
              chunkKeys (position - start)
          else
            scratch.composedKeys row
        positions := fun row =>
          if row < rows then ((first + row : Nat) : Int) else scratch.composedPositions row
        rows := rows }

/-- `run_attention_tile`: what it launches the kernel with. -/
def runAttentionTile
    (state : LayerState Row)
    (start : Nat)
    (tileRows : TileRows Row)
    (committed : Nat)
    (perQuery : Option PerQueryKeys) : AttentionTile Row where
  block0 := ⟨tileRows.keys, tileRows.positions, tileRows.rows, layout.localCapacity⟩
  block1 :=
    { keys := state.compressedKeys
      positions := state.compressedPositions
      rows := if layout.kind ≠ .sliding ∧ 0 < committed then committed else 0
      window := 0 }
  perQuery := perQuery
  queryPositionBase := start

/-- The attention of `run_layer_body_chunk` with the tile on, up to the launch. -/
def chunkAttentionTile
    (scratch : BatchScratch Row Score)
    (state : LayerState Row)
    (start : Nat)
    (rows : List (ProjectedRow Row)) : Except String (AttentionTile Row) := do
  if maxTokens < rows.length ∨ scratch.sizes.tokenCount < rows.length then
    .error "run_layer_body_chunk: chunk exceeds the workspace"
  else
    let (after, pre) ← chunkTail layout arithmetic state start rows
    let chunkKeys := fun index =>
      (rows.map ProjectedRow.key).getD index (scratch.chunkKeys index)
    let topk := chunkIndexerSelect layout arithmetic scratch after start rows
    let committed := pre.getLastD 0
    let tileRows ← composeTileRows layout scratch after chunkKeys start rows.length
    let perQuery :=
      if layout.kind = .csa ∧ 0 < committed then
        some ⟨topk, layout.indexTopk⟩
      else
        none
    .ok (runAttentionTile layout after start tileRows committed perQuery)

end Launch

/--
The scratch has room for `count` rows of a layer, the last at a position: the score
rows of an indexer do not reach into each other, and its selections are as far apart
as the tile reads them.
-/
structure Room
    (layout : LayerLayout)
    (sizes : PrefillWorkspace.BatchScratch)
    (count last : Nat) : Prop where
  tokens : count ≤ sizes.tokenCount
  composed : layout.localCapacity + count ≤ sizes.maxComposedRows
  scores : layout.kind = .csa →
    layout.committedEntriesFor last ≤ sizes.indexScoresPerToken
  topk : layout.kind = .csa → sizes.indexTopkPerToken = layout.indexTopk

/-! ## The compaction of a query -/

/-- The first position a query at a position keeps of a block. -/
def CausalAttentionBlock.windowFirst
    (block : CausalAttentionBlock Row)
    (queryPosition : Nat) : Int :=
  if 0 < block.window then
    if (block.window : Int) - 1 ≤ queryPosition then
      (queryPosition : Int) - (block.window - 1)
    else
      0
  else
    0

/-- The warps of `causal_attention_head_group_fp16_kernel`. -/
def headGroup : Block := ⟨8, 32, by decide⟩

namespace AttentionTile

variable (tile : AttentionTile Row)

/-- The rows the second block offers a query. -/
def rows1Effective : Nat :=
  match tile.perQuery with
  | none => tile.block1.rows
  | some perQuery => perQuery.count

/-- The row of the second block behind a candidate. -/
def candidateRow (query index : Nat) : Int :=
  match tile.perQuery with
  | none => index
  | some perQuery => perQuery.keys (query * perQuery.count + index)

/-- The key a candidate stands for, if the query keeps it. -/
def candidateKey (query candidate : Nat) : Option Nat :=
  let position := tile.queryPositionBase + query
  if candidate < tile.block0.rows then
    let label := tile.block0.positions candidate
    if tile.block0.windowFirst position ≤ label ∧ label ≤ position then
      some candidate
    else
      none
  else if candidate < tile.block0.rows + tile.rows1Effective then
    let row := tile.candidateRow query (candidate - tile.block0.rows)
    if 0 ≤ row ∧ row < tile.block1.rows then
      let label := tile.block1.positions row.toNat
      if tile.block1.windowFirst position ≤ label ∧ label ≤ position then
        some (tile.block0.rows + row.toNat)
      else
        none
    else
      none
  else
    none

/-- `key_list` of a query, up to `n_valid`; the shared memory held anything. -/
def keyList
    (query : Nat)
    (shared : Nat → Nat) : List Nat :=
  Block.stored (headGroup.compact (tile.block0.rows + tile.rows1Effective)
    (tile.candidateKey query) shared)

/-- Where a key comes from. -/
inductive KeySource where
  | localRow (position : Int)
  | compressedEntry (index : Nat)
  deriving Repr, DecidableEq

/-- The row behind an element of the list, with its source. -/
def keyRow (encoded : Nat) : KeySource × Row :=
  if encoded < tile.block0.rows then
    (.localRow (tile.block0.positions encoded), tile.block0.keys encoded)
  else
    (.compressedEntry (encoded - tile.block0.rows),
      tile.block1.keys (encoded - tile.block0.rows))

end AttentionTile

end Aeon.Attention
