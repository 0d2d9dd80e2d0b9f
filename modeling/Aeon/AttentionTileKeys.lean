import Aeon.AttentionTile
import Aeon.ScratchFit

namespace Aeon.Attention

open WarpCompaction
open PrefillWorkspace (maxTokens Fits)

/-!
# A query sees exactly its causal rows

The keys the head-group kernel compacts for a query are the local rows of its window
in position order, each with the key computed for its position, and then the
compressed entries of its layer's kind that are complete at its position.
-/

variable {Row Score : Type} [LinearOrder Score]

/-! ## The rows the tail leaves alone -/

section Tail

variable {layout : LayerLayout} {arithmetic : LayerArithmetic Row Score}
  {history : Nat → ProjectedRow Row} {count : Nat} {state : LayerState Row}

theorem advancedRows_local
    (rows : List (ProjectedRow Row))
    (state : LayerState Row)
    (position : Nat) :
    (advancedRows layout arithmetic state position rows).localKeys = state.localKeys := by
  induction rows generalizing state position with
  | nil => rfl
  | cons row rest ih =>
    rw [advancedRows, ih]
    unfold advanced feedCompressor recordedPosition savedPosition emittedEntry
    split_ifs <;> rfl

theorem commitKeys_compressed
    (keys : List Row)
    (state : LayerState Row)
    (position : Nat) :
    (commitKeys layout state position keys).compressedKeys = state.compressedKeys ∧
      (commitKeys layout state position keys).compressedPositions =
        state.compressedPositions ∧
      (commitKeys layout state position keys).indexerKeys = state.indexerKeys := by
  induction keys generalizing state position with
  | nil => exact ⟨rfl, rfl, rfl⟩
  | cons key rest ih =>
    exact ih (writeLocal layout state position key) (position + 1)

/-- The entries that exist once the tail of a chunk has run. -/
theorem Fed.advanced_entries
    (held : Fed layout arithmetic history count state)
    (tokens : Nat)
    (compressed : layout.compressionRatio ≠ 0)
    {index : Nat}
    (complete : (index + 1) * layout.compressionRatio ≤ count + tokens) :
    (advancedRows layout arithmetic state count
        (historyRows history count tokens)).compressedKeys index =
          compressedEntry layout arithmetic.compressor
            (fun position => (history position).compressor) index ∧
      (advancedRows layout arithmetic state count
        (historyRows history count tokens)).compressedPositions index =
          boundaryOf layout index ∧
      (layout.kind = .csa →
        (advancedRows layout arithmetic state count
          (historyRows history count tokens)).indexerKeys index =
            compressedEntry layout arithmetic.indexer
              (fun position => (history position).indexerCompressor) index) := by
  have after := held.tokens tokens
  rw [← commitKeys_advancedRows] at after
  obtain ⟨keys, positions, indexerKeys⟩ := @commitKeys_compressed Row layout
    ((historyRows history count tokens).map ProjectedRow.key)
    (advancedRows layout arithmetic state count (historyRows history count tokens)) count
  obtain ⟨key, position⟩ := after.entries compressed index complete
  refine ⟨?_, ?_, fun csa => ?_⟩
  · rw [← keys, key]
  · rw [← positions, position]
  · rw [← indexerKeys, after.indexerEntries csa index complete]

theorem committedEntriesFor_eq
    {position : Nat}
    (inside : position < layout.maxSeqLen) :
    layout.committedEntriesFor position = (position + 1) / layout.compressionRatio := by
  have context := layout.context
  unfold LayerLayout.committedEntriesFor
  split
  next none_ => rw [none_, Nat.div_zero]
  next compressed =>
    have ratio_pos := Nat.pos_of_ne_zero compressed
    have ratio_small : layout.compressionRatio ≤ 128 := by
      unfold LayerLayout.compressionRatio
      cases layout.kind <;> decide
    refine Nat.min_eq_right ?_
    unfold LayerLayout.compressedCapacity
    rw [Nat.mod_eq_of_lt (by omega)]
    exact Nat.div_le_div_right (by omega)

theorem committedEntriesFor_mono
    {position last : Nat}
    (before : position ≤ last) :
    layout.committedEntriesFor position ≤ layout.committedEntriesFor last := by
  unfold LayerLayout.committedEntriesFor
  split
  · exact Nat.le_refl _
  · exact min_le_min_left _ (Nat.div_le_div_right (Nat.succ_le_succ before))

theorem Room.mono
    {sizes : PrefillWorkspace.BatchScratch}
    {less count before last : Nat}
    (room : Room layout sizes count last)
    (fewer : less ≤ count)
    (earlier : before ≤ last) :
    Room layout sizes less before where
  tokens := Nat.le_trans fewer room.tokens
  composed := Nat.le_trans (Nat.add_le_add_left fewer _) room.composed
  scores := fun csa => Nat.le_trans (committedEntriesFor_mono earlier) (room.scores csa)
  topk := room.topk

/-- A scratch that fits a layer has room for its rows, wherever they end. -/
theorem Room.of_fits
    {sizes : PrefillWorkspace.BatchScratch}
    {count : Nat}
    (fits : Fits sizes layout.capacities count)
    (last : Nat) :
    Room layout sizes count last where
  tokens := fits.tokens
  composed := fits.composed
  scores := fun _ => by
    refine Nat.le_trans ?_ fits.scores
    unfold LayerLayout.committedEntriesFor
    split
    · exact Nat.zero_le _
    · exact Nat.min_le_left _ _
  topk := fun _ => fits.topk

theorem boundaryOf_le
    (compressed : layout.compressionRatio ≠ 0)
    {index position : Nat} :
    boundaryOf layout index ≤ position ↔
      index < (position + 1) / layout.compressionRatio := by
  have ratio_pos := Nat.pos_of_ne_zero compressed
  have positive : 0 < (index + 1) * layout.compressionRatio :=
    Nat.mul_pos index.succ_pos ratio_pos
  unfold boundaryOf
  rw [Nat.lt_iff_add_one_le, Nat.le_div_iff_mul_le ratio_pos]
  omega

end Tail

/-! ## What a launch offers its queries -/

/-- The entries a query may select from score as its own indexer row says. -/
def queryScores
    (layout : LayerLayout)
    (arithmetic : LayerArithmetic Row Score)
    (history : Nat → ProjectedRow Row)
    (position : Nat) : Nat → Score :=
  fun candidate =>
    arithmetic.score (history position).indexerQuery (history position).indexerWeights
      (compressedEntry layout arithmetic.indexer
        (fun place => (history place).indexerCompressor) candidate)

/-- The compressed entries the query at a position attends. -/
def Selects
    (layout : LayerLayout)
    (arithmetic : LayerArithmetic Row Score)
    (history : Nat → ProjectedRow Row)
    (position : Nat)
    (selection : List Nat) : Prop :=
  match layout.kind with
  | .sliding => selection = []
  | .hca => selection = List.range ((position + 1) / layout.compressionRatio)
  | .csa =>
    BestSelection (queryScores layout arithmetic history position)
      ((position + 1) / layout.compressionRatio)
      (min layout.indexTopk ((position + 1) / layout.compressionRatio)) selection

/-- A launch over the `count` queries from `start` on. -/
structure TileHolds
    (layout : LayerLayout)
    (arithmetic : LayerArithmetic Row Score)
    (history : Nat → ProjectedRow Row)
    (start count : Nat)
    (tile : AttentionTile Row) : Prop where
  base : tile.queryPositionBase = start
  window0 : tile.block0.window = layout.localCapacity
  rows0 : tile.block0.rows = start + count - (start + 1 - layout.localCapacity)
  localRow : ∀ row < tile.block0.rows,
    tile.block0.keys row = (history (start + 1 - layout.localCapacity + row)).key ∧
      tile.block0.positions row = (start + 1 - layout.localCapacity + row : Nat)
  window1 : tile.block1.window = 0
  rows1 : tile.block1.rows = (start + count) / layout.compressionRatio
  entry : ∀ index < tile.block1.rows,
    tile.block1.keys index =
        compressedEntry layout arithmetic.compressor
          (fun position => (history position).compressor) index ∧
      tile.block1.positions index = boundaryOf layout index
  shared : layout.kind ≠ .csa → tile.perQuery = none
  selected : layout.kind = .csa →
    (tile.perQuery = none ∧ tile.block1.rows = 0) ∨
      ∃ keys, tile.perQuery = some ⟨keys, layout.indexTopk⟩ ∧
        ∀ query < count, (start + query + 1) / layout.compressionRatio ≠ 0 →
          ∃ selection, Selects layout arithmetic history (start + query) selection ∧
            ∀ index < layout.indexTopk, keys (query * layout.indexTopk + index) =
              (selection.map Int.ofNat).getD index (-1)

/-! ## The lists -/

theorem filterMap_interval
    {Value : Type}
    (value : Nat → Value)
    {first last bound : Nat}
    (ordered : first ≤ last)
    (inside : last ≤ bound) :
    ((List.range bound).filterMap fun index =>
        if first ≤ index ∧ index < last then some (value index) else none) =
      (List.range' first (last - first)).map value := by
  have split : List.range bound = List.range' 0 first ++
      (List.range' first (last - first) ++ List.range' last (bound - last)) := by
    obtain ⟨length, rfl⟩ := Nat.exists_eq_add_of_le ordered
    obtain ⟨rest, rfl⟩ := Nat.exists_eq_add_of_le inside
    have outer := @List.range'_append_1 0 first (length + rest)
    rw [Nat.zero_add] at outer
    rw [Nat.add_sub_cancel_left, Nat.add_sub_cancel_left, List.range'_append_1, outer,
      List.range_eq_range', Nat.add_assoc]
  have before : ((List.range' 0 first).filterMap fun index =>
      if first ≤ index ∧ index < last then some (value index) else none) = [] := by
    rw [List.filterMap_eq_nil_iff]
    intro index listed
    have := List.mem_range'_1.mp listed
    exact if_neg (by omega)
  have behind : ((List.range' last (bound - last)).filterMap fun index =>
      if first ≤ index ∧ index < last then some (value index) else none) = [] := by
    rw [List.filterMap_eq_nil_iff]
    intro index listed
    have := List.mem_range'_1.mp listed
    exact if_neg (by omega)
  have between : ((List.range' first (last - first)).filterMap fun index =>
      if first ≤ index ∧ index < last then some (value index) else none) =
        (List.range' first (last - first)).map value := by
    rw [← List.filterMap_eq_map]
    refine List.filterMap_congr fun index listed => ?_
    have := List.mem_range'_1.mp listed
    exact if_pos (by omega)
  rw [split, List.filterMap_append, List.filterMap_append, before, between, behind]
  simp

/-- A list read through its indices. -/
theorem filterMap_getD
    {Value Result : Type}
    (values : List Value)
    (default : Value)
    (result : Value → Option Result) :
    ((List.range values.length).filterMap fun index =>
        result (values.getD index default)) = values.filterMap result := by
  induction values with
  | nil => rfl
  | cons first rest ih =>
    rw [List.length_cons, List.range_succ_eq_map, List.filterMap_cons,
      List.filterMap_map, List.filterMap_cons]
    simp only [Function.comp_def, List.getD_cons_zero, List.getD_cons_succ,
      ih]

section Lists

variable {layout : LayerLayout} {arithmetic : LayerArithmetic Row Score}
  {history : Nat → ProjectedRow Row} {start count query : Nat}
  {tile : AttentionTile Row}

section

variable
    (holds : TileHolds layout arithmetic history start count tile)
    (inside : query < count)

include holds inside

/-- The kept rows of the first block are the window's. -/
theorem TileHolds.local_keys :
    (Block.keptBy (tile.candidateKey query) tile.block0.rows).map tile.keyRow =
      (List.range' (start + query + 1 - layout.localCapacity)
          (start + query + 1 - (start + query + 1 - layout.localCapacity))).map
        fun position => (.localRow position, (history position).key) := by
  have capacity_pos := layout.ring
  have rows := holds.rows0
  have window : tile.block0.windowFirst (start + query) =
      (start + query + 1 - layout.localCapacity : Nat) := by
    unfold CausalAttentionBlock.windowFirst
    rw [holds.window0, if_pos capacity_pos]
    split <;> omega
  unfold Block.keptBy
  rw [List.map_filterMap]
  have each : ∀ row ∈ List.range tile.block0.rows,
      (tile.candidateKey query row).map tile.keyRow =
        if start + query + 1 - layout.localCapacity -
            (start + 1 - layout.localCapacity) ≤ row ∧
          row < start + query + 1 - (start + 1 - layout.localCapacity) then
          some (AttentionTile.KeySource.localRow
              (start + 1 - layout.localCapacity + row : Nat),
            (history (start + 1 - layout.localCapacity + row)).key)
        else
          none := by
    intro row listed
    have below := List.mem_range.mp listed
    obtain ⟨key, label⟩ := holds.localRow row below
    unfold AttentionTile.candidateKey
    simp only [holds.base, below, if_true, label, window]
    by_cases kept : start + query + 1 - layout.localCapacity -
        (start + 1 - layout.localCapacity) ≤ row ∧
          row < start + query + 1 - (start + 1 - layout.localCapacity)
    · rw [if_pos (by omega), if_pos kept, Option.map_some, AttentionTile.keyRow,
        if_pos below, key, label]
    · rw [if_neg (by omega), if_neg kept, Option.map_none]
  rw [List.filterMap_congr each, filterMap_interval _ (by omega) (by omega)]
  have ordered : start + 1 - layout.localCapacity ≤
      start + query + 1 - layout.localCapacity := by omega
  generalize start + query + 1 - layout.localCapacity = windowStart at *
  generalize start + 1 - layout.localCapacity = first at *
  obtain ⟨shift, rfl⟩ := Nat.exists_eq_add_of_le ordered
  rw [Nat.add_sub_cancel_left, ← List.map_add_range', List.map_map, Nat.sub_sub]
  rfl

theorem TileHolds.candidateKey_compressed
    {index : Nat}
    (offered : index < tile.rows1Effective) :
    (tile.candidateKey query (tile.block0.rows + index)).map tile.keyRow =
      if 0 ≤ tile.candidateRow query index ∧
          tile.candidateRow query index <
            ((start + query + 1) / layout.compressionRatio : Nat) then
        some (.compressedEntry (tile.candidateRow query index).toNat,
          compressedEntry layout arithmetic.compressor
            (fun position => (history position).compressor)
            (tile.candidateRow query index).toNat)
      else
        none := by
  have monotone : (start + query + 1) / layout.compressionRatio ≤ tile.block1.rows := by
    rw [holds.rows1]
    exact Nat.div_le_div_right (by omega)
  have windowFirst : tile.block1.windowFirst (start + query) = 0 := by
    unfold CausalAttentionBlock.windowFirst
    rw [holds.window1]
    rfl
  unfold AttentionTile.candidateKey
  simp only [holds.base, windowFirst, Nat.add_sub_cancel_left]
  rw [if_neg (by omega), if_pos (by omega)]
  generalize tile.candidateRow query index = row
  by_cases real : 0 ≤ row ∧ row < tile.block1.rows
  · obtain ⟨key, label⟩ := holds.entry row.toNat (by omega)
    have compressed : layout.compressionRatio ≠ 0 := by
      intro none_
      have := holds.rows1
      rw [none_, Nat.div_zero] at this
      omega
    have complete := @boundaryOf_le layout compressed row.toNat (start + query)
    rw [if_pos real, label]
    by_cases kept : row.toNat < (start + query + 1) / layout.compressionRatio
    · have causal := complete.mpr kept
      rw [if_pos (by omega), if_pos (by omega), Option.map_some, AttentionTile.keyRow,
        if_neg (by omega), Nat.add_sub_cancel_left, key]
    · have later := fun causal => kept (complete.mp causal)
      rw [if_neg (by omega), if_neg (by omega), Option.map_none]
  · rw [if_neg real, if_neg (by omega), Option.map_none]

end

/-- The compressed rows of a selection. -/
def selectedRows
    (layout : LayerLayout)
    (arithmetic : LayerArithmetic Row Score)
    (history : Nat → ProjectedRow Row)
    (selection : List Nat) : List (AttentionTile.KeySource × Row) :=
  selection.map fun index =>
    (.compressedEntry index,
      compressedEntry layout arithmetic.compressor
        (fun position => (history position).compressor) index)

section

variable
    (holds : TileHolds layout arithmetic history start count tile)
    (inside : query < count)

include holds inside

theorem TileHolds.shared_keys
    (shared : tile.perQuery = none) :
    (Block.keptBy (fun index => tile.candidateKey query (tile.block0.rows + index))
        tile.rows1Effective).map tile.keyRow =
      selectedRows layout arithmetic history
        (List.range ((start + query + 1) / layout.compressionRatio)) := by
  have effective : tile.rows1Effective = tile.block1.rows := by
    rw [AttentionTile.rows1Effective, shared]
  have own : ∀ index, tile.candidateRow query index = index := by
    intro index
    rw [AttentionTile.candidateRow, shared]
  have bound : (start + query + 1) / layout.compressionRatio ≤ tile.block1.rows := by
    rw [holds.rows1]
    exact Nat.div_le_div_right (by omega)
  unfold Block.keptBy selectedRows
  rw [List.map_filterMap]
  have each : ∀ index ∈ List.range tile.rows1Effective,
      (tile.candidateKey query (tile.block0.rows + index)).map tile.keyRow =
        if 0 ≤ index ∧ index < (start + query + 1) / layout.compressionRatio then
          some (AttentionTile.KeySource.compressedEntry index,
            compressedEntry layout arithmetic.compressor
              (fun position => (history position).compressor) index)
        else
          none := by
    intro index listed
    rw [holds.candidateKey_compressed inside (List.mem_range.mp listed), own]
    refine if_congr (by omega) rfl rfl
  rw [List.filterMap_congr each, effective,
    filterMap_interval _ (Nat.zero_le _) bound, Nat.sub_zero, List.range_eq_range']

theorem TileHolds.selected_keys
    {keys : Nat → Int}
    (perQuery : tile.perQuery = some ⟨keys, layout.indexTopk⟩)
    {selection : List Nat}
    (short : selection.length ≤ layout.indexTopk)
    (complete : ∀ index ∈ selection,
      index < (start + query + 1) / layout.compressionRatio)
    (written : ∀ index < layout.indexTopk, keys (query * layout.indexTopk + index) =
      (selection.map Int.ofNat).getD index (-1)) :
    (Block.keptBy (fun index => tile.candidateKey query (tile.block0.rows + index))
        tile.rows1Effective).map tile.keyRow =
      selectedRows layout arithmetic history selection := by
  have effective : tile.rows1Effective = layout.indexTopk := by
    rw [AttentionTile.rows1Effective, perQuery]
  obtain ⟨rest, split⟩ := Nat.exists_eq_add_of_le short
  let result : Int → Option (AttentionTile.KeySource × Row) := fun row =>
    if 0 ≤ row ∧ row < ((start + query + 1) / layout.compressionRatio : Nat) then
      some (.compressedEntry row.toNat,
        compressedEntry layout arithmetic.compressor
          (fun position => (history position).compressor) row.toNat)
    else
      none
  have each : ∀ index ∈ List.range layout.indexTopk,
      (tile.candidateKey query (tile.block0.rows + index)).map tile.keyRow =
        result ((selection.map Int.ofNat).getD index (-1)) := by
    intro index listed
    have below := List.mem_range.mp listed
    rw [holds.candidateKey_compressed inside (effective ▸ below),
      AttentionTile.candidateRow, perQuery]
    simp only [written index below]
    rfl
  have front : ((List.range selection.length).filterMap fun index =>
      result ((selection.map Int.ofNat).getD index (-1))) =
        selectedRows layout arithmetic history selection := by
    have read := filterMap_getD (selection.map Int.ofNat) (-1) result
    rw [List.length_map] at read
    rw [read, List.filterMap_map, selectedRows, ← List.filterMap_eq_map]
    refine List.filterMap_congr fun index listed => ?_
    have below := complete index listed
    exact if_pos ⟨Int.natCast_nonneg index, Int.ofNat_lt.mpr below⟩
  have padding : ((List.range rest).map (selection.length + ·)).filterMap
      (fun index => result ((selection.map Int.ofNat).getD index (-1))) = [] := by
    rw [List.filterMap_eq_nil_iff]
    intro index listed
    obtain ⟨place, -, rfl⟩ := List.mem_map.mp listed
    rw [List.getD_eq_getElem?_getD, List.getElem?_eq_none (by simp)]
    exact if_neg (by simp)
  unfold Block.keptBy
  rw [List.map_filterMap, effective, List.filterMap_congr each, split, List.range_add,
    List.filterMap_append, front, padding, List.append_nil]

theorem TileHolds.stale_keys
    (early : (start + query + 1) / layout.compressionRatio = 0) :
    (Block.keptBy (fun index => tile.candidateKey query (tile.block0.rows + index))
        tile.rows1Effective).map tile.keyRow = [] := by
  unfold Block.keptBy
  rw [List.map_filterMap, List.filterMap_eq_nil_iff]
  intro index listed
  rw [holds.candidateKey_compressed inside (List.mem_range.mp listed), early]
  exact if_neg (by omega)

/-- Those of the second are the entries of the layer's kind. -/
theorem TileHolds.compressed_keys :
    ∃ selection, Selects layout arithmetic history (start + query) selection ∧
      (Block.keptBy (fun index => tile.candidateKey query (tile.block0.rows + index))
          tile.rows1Effective).map tile.keyRow =
        selectedRows layout arithmetic history selection := by
  cases kind : layout.kind with
  | sliding =>
    have none_ : layout.compressionRatio = 0 := by
      rw [LayerLayout.compressionRatio, kind]
      rfl
    refine ⟨[], by rw [Selects, kind], holds.stale_keys inside ?_⟩
    rw [none_, Nat.div_zero]
  | hca =>
    refine ⟨_, by rw [Selects, kind], holds.shared_keys inside (holds.shared ?_)⟩
    rw [kind]
    intro same
    cases same
  | csa =>
    by_cases early : (start + query + 1) / layout.compressionRatio = 0
    · refine ⟨[], ?_, holds.stale_keys inside early⟩
      rw [Selects, kind]
      simp only [early]
      exact ⟨List.nodup_nil, by simp, by simp, by simp⟩
    · have monotone : (start + query + 1) / layout.compressionRatio ≤
          tile.block1.rows := by
        rw [holds.rows1]
        exact Nat.div_le_div_right (by omega)
      rcases holds.selected kind with ⟨-, nothing⟩ | ⟨keys, perQuery, own⟩
      · rw [nothing] at monotone
        exact absurd (Nat.le_zero.mp monotone) early
      · obtain ⟨selection, selects, written⟩ := own query inside early
        refine ⟨selection, selects, ?_⟩
        rw [Selects, kind] at selects
        refine holds.selected_keys inside perQuery ?_ selects.inside written
        rw [selects.length]
        exact Nat.min_le_left _ _

/-- Both together are the compacted list. -/
theorem TileHolds.keyList_eq
    (shared : Nat → Nat) :
    ∃ selection, Selects layout arithmetic history (start + query) selection ∧
      (tile.keyList query shared).map tile.keyRow =
        ((List.range' (start + query + 1 - layout.localCapacity)
            (start + query + 1 - (start + query + 1 - layout.localCapacity))).map
          fun position => (.localRow position, (history position).key)) ++
        selectedRows layout arithmetic history selection := by
  have last : ∀ candidate, tile.block0.rows + tile.rows1Effective ≤ candidate →
      tile.candidateKey query candidate = none := by
    intro candidate behind
    unfold AttentionTile.candidateKey
    simp only
    rw [if_neg (by omega), if_neg (by omega)]
  have compacted := headGroup.compact_holds (by decide) last shared
  obtain ⟨selection, selects, compressed⟩ := holds.compressed_keys inside
  refine ⟨selection, selects, ?_⟩
  rw [AttentionTile.keyList, compacted.stored, Block.keptBy_add, List.map_append,
    holds.local_keys inside, compressed]

end

end Lists

/-! ## The launch of a chunk -/

section Launch

variable {layout : LayerLayout} {arithmetic : LayerArithmetic Row Score}
  {history : Nat → ProjectedRow Row} {start count : Nat} {state : LayerState Row}
  {scratch : BatchScratch Row Score}

/-- Score rows that do not reach into each other hold what their own row wrote. -/
theorem chunkIndexerScores_row
    {rows : List (ProjectedRow Row)}
    {index : Nat}
    {row : ProjectedRow Row}
    (wide : ∀ other < rows.length, layout.committedEntriesFor (start + other) ≤
      scratch.sizes.indexScoresPerToken)
    (found : rows[index]? = some row)
    {candidate : Nat}
    (below : candidate < layout.committedEntriesFor (start + index)) :
    chunkIndexerScores layout arithmetic scratch state start rows
        (index * scratch.sizes.indexScoresPerToken + candidate) =
      arithmetic.score row.indexerQuery row.indexerWeights
        (state.indexerKeys candidate) := by
  obtain ⟨inside, -⟩ := List.getElem?_eq_some_iff.mp found
  generalize pitch : scratch.sizes.indexScoresPerToken = width at wide
  have own : cellScore layout arithmetic scratch state start rows
      (index * width + candidate) index =
        some (arithmetic.score row.indexerQuery row.indexerWeights
          (state.indexerKeys candidate)) := by
    unfold cellScore
    simp only [found, pitch]
    rw [if_pos (by omega), Nat.add_sub_cancel_left]
  unfold chunkIndexerScores
  generalize order : scratch.landing _ :: List.range rows.length = threads
  have written : (threads.findSome? (cellScore layout arithmetic scratch state start rows
      (index * width + candidate))).isSome := by
    rw [List.findSome?_isSome_iff]
    refine ⟨index, ?_, by rw [own]; rfl⟩
    rw [← order]
    exact List.mem_cons_of_mem _ (List.mem_range.mpr inside)
  obtain ⟨value, landed⟩ := Option.isSome_iff_exists.mp written
  obtain ⟨other, -, wrote⟩ := List.exists_of_findSome?_eq_some landed
  -- The cell is within the pitch of one row only.
  have same : other = index := by
    unfold cellScore at wrote
    simp only [pitch] at wrote
    split at wrote
    · cases wrote
    next known =>
      obtain ⟨listed, -⟩ := List.getElem?_eq_some_iff.mp known
      split at wrote
      next reaches =>
        have narrow := wide other listed
        have ownNarrow := wide index inside
        rcases Nat.lt_trichotomy other index with before | same | behind
        · have := Nat.mul_le_mul_right width before
          rw [Nat.succ_mul] at this
          omega
        · exact same
        · have := Nat.mul_le_mul_right width behind
          rw [Nat.succ_mul] at this
          omega
      · cases wrote
  rw [same, own] at wrote
  rw [landed, Option.getD_some, Option.some.inj wrote]

section

variable
    (apart : scratch.sizes.indexTopkPerToken = layout.indexTopk)

include apart

/-- A row's selection is not overwritten by the rows behind it. -/
theorem selectRows_before
    (scores : Nat → Score)
    (rows first : Nat)
    (buffer : Nat → Int)
    {index : Nat}
    (before : index < first * layout.indexTopk) :
    selectRows layout arithmetic scratch.sizes scores start first rows buffer index =
      buffer index := by
  induction rows generalizing first buffer with
  | zero => rfl
  | succ rows ih =>
    have wider : index < (first + 1) * layout.indexTopk := by
      rw [Nat.succ_mul]
      omega
    rw [selectRows, ih _ _ wider, apart]
    unfold selectIndexerTopk
    split
    · rfl
    · exact if_neg (by omega)

theorem selectRows_row
    (scores : Nat → Score)
    {first rows place index : Nat}
    (buffer : Nat → Int)
    (found : place < rows)
    (some_ : layout.committedEntriesFor (start + (first + place)) ≠ 0)
    (inside : index < layout.indexTopk) :
    selectRows layout arithmetic scratch.sizes scores start first rows buffer
        ((first + place) * layout.indexTopk + index) =
      (indexerTopk arithmetic.floor
        (fun candidate =>
          scores ((first + place) * scratch.sizes.indexScoresPerToken + candidate))
        (layout.committedEntriesFor (start + (first + place))) layout.indexTopk).getD
          index (-1) := by
  induction rows generalizing first place buffer with
  | zero => exact absurd found (Nat.not_lt_zero place)
  | succ rows ih =>
    rw [selectRows]
    cases place with
    | zero =>
      simp only [Nat.add_zero] at some_ ⊢
      rw [selectRows_before apart _ _ _ _ (by rw [Nat.succ_mul]; omega), apart]
      unfold selectIndexerTopk
      simp only
      rw [if_neg some_, if_pos (by omega), Nat.add_sub_cancel_left]
    | succ place =>
      have next : first + (place + 1) = first + 1 + place := by omega
      rw [next] at some_ ⊢
      exact ih _ (Nat.lt_of_succ_lt_succ found) some_

end

theorem getD_append_replicate
    (values : List Int)
    (padding index : Nat) :
    (values ++ List.replicate padding (-1)).getD index (-1) = values.getD index (-1) := by
  simp only [List.getD_eq_getElem?_getD]
  by_cases inside : index < values.length
  · rw [List.getElem?_append_left inside]
  · have behind : values.length ≤ index := Nat.le_of_not_lt inside
    rw [List.getElem?_append_right behind, List.getElem?_eq_none behind,
      List.getElem?_replicate]
    split <;> rfl

/-- The selection a row of a chunk is left with. -/
theorem chunkIndexerSelect_row
    (csa : layout.kind = .csa)
    (apart : scratch.sizes.indexTopkPerToken = layout.indexTopk)
    (context : start + count ≤ layout.maxSeqLen)
    {query index : Nat}
    (inside : query < count)
    (some_ : (start + query + 1) / layout.compressionRatio ≠ 0)
    (below : index < layout.indexTopk) :
    chunkIndexerSelect layout arithmetic scratch
        (advancedRows layout arithmetic state start (historyRows history start count))
        start (historyRows history start count) (query * layout.indexTopk + index) =
      (indexerTopk arithmetic.floor
        (fun candidate => chunkIndexerScores layout arithmetic scratch
          (advancedRows layout arithmetic state start (historyRows history start count))
          start (historyRows history start count)
          (query * scratch.sizes.indexScoresPerToken + candidate))
        ((start + query + 1) / layout.compressionRatio) layout.indexTopk).getD
          index (-1) := by
  have committed := @committedEntriesFor_eq layout (start + query) (by omega)
  rw [chunkIndexerSelect, if_pos csa, historyRows_length]
  have row := @selectRows_row Row Score _ layout arithmetic start scratch apart
    (chunkIndexerScores layout arithmetic scratch
      (advancedRows layout arithmetic state start (historyRows history start count))
      start (historyRows history start count)) 0 count query index scratch.indexerTopk
    inside (by rw [Nat.zero_add, committed]; exact some_) below
  rwa [Nat.zero_add, committed] at row

section

variable
    (held : Fed layout arithmetic history start state)

include held

/-- Each row of a chunk ranks the entries of its layer as its own query scores them. -/
theorem chunkIndexerScores_eq
    (csa : layout.kind = .csa)
    (room : layout.committedEntriesFor (start + count - 1) ≤
      scratch.sizes.indexScoresPerToken)
    (context : start + count ≤ layout.maxSeqLen)
    {query : Nat}
    (inside : query < count) :
    ∀ candidate < (start + query + 1) / layout.compressionRatio,
      chunkIndexerScores layout arithmetic scratch
          (advancedRows layout arithmetic state start (historyRows history start count))
          start (historyRows history start count)
          (query * scratch.sizes.indexScoresPerToken + candidate) =
        queryScores layout arithmetic history (start + query) candidate := by
  intro candidate below
  have compressed := csa_compressed csa
  have ratio_pos := Nat.pos_of_ne_zero compressed
  have complete : (candidate + 1) * layout.compressionRatio ≤ start + count :=
    Nat.le_trans ((Nat.le_div_iff_mul_le ratio_pos).mp below) (by omega)
  obtain ⟨-, -, indexerKey⟩ := held.advanced_entries count compressed complete
  rw [chunkIndexerScores_row (fun other listed => ?_) (historyRows_getElem inside)
    (by rw [committedEntriesFor_eq (by omega)]; exact below), indexerKey csa]
  · rfl
  · rw [historyRows_length] at listed
    exact Nat.le_trans (committedEntriesFor_mono (by omega)) room

/-- With room, a row holds its own best selection. -/
theorem chunkIndexerSelect_selects
    (csa : layout.kind = .csa)
    (room : Room layout scratch.sizes count (start + count - 1))
    (context : start + count ≤ layout.maxSeqLen)
    {query : Nat}
    (inside : query < count)
    (some_ : (start + query + 1) / layout.compressionRatio ≠ 0) :
    ∃ selection, Selects layout arithmetic history (start + query) selection ∧
      ∀ index < layout.indexTopk,
        chunkIndexerSelect layout arithmetic scratch
            (advancedRows layout arithmetic state start (historyRows history start count))
            start (historyRows history start count) (query * layout.indexTopk + index) =
          (selection.map Int.ofNat).getD index (-1) := by
  have scores := @chunkIndexerScores_eq Row Score _ layout arithmetic history start count
    state scratch held csa (room.scores csa) context query inside
  obtain ⟨selection, best, chosen⟩ := indexerTopk_best (fun candidate _ =>
    arithmetic.finite (history (start + query)).indexerQuery
      (history (start + query)).indexerWeights _) layout.indexTopk
  refine ⟨selection, ?_, fun index below => ?_⟩
  · rw [Selects, csa]
    exact best
  · rw [chunkIndexerSelect_row csa (room.topk csa) context inside some_ below,
      indexerTopk_congr scores]
    refine (congrArg (fun chosen => List.getD chosen index (-1)) chosen).trans ?_
    exact getD_append_replicate _ _ _

/-- The launched tile holds what a query needs. -/
theorem chunkAttentionTile_holds
    (some_ : 0 < count)
    (few : count ≤ maxTokens)
    (room : Room layout scratch.sizes count (start + count - 1))
    (context : start + count ≤ layout.maxSeqLen) :
    ∃ tile, chunkAttentionTile layout arithmetic scratch state start
        (historyRows history start count) = .ok tile ∧
      TileHolds layout arithmetic history start count tile := by
  have length := @historyRows_length Row history start count
  have tail := @chunkTail_inside Row Score _ layout arithmetic
    (historyRows history start count) state start (by rw [length]; exact context)
  have last : ((List.range' start count).map layout.committedEntriesFor).getLastD 0 =
      (start + count) / layout.compressionRatio := by
    obtain ⟨before, rfl⟩ := Nat.exists_eq_succ_of_ne_zero (Nat.ne_of_gt some_)
    rw [Nat.succ_eq_add_one, List.range'_1_concat, List.map_append, List.map_singleton,
      List.getLastD_eq_getLast?, List.getLast?_append, List.getLast?_singleton,
      committedEntriesFor_eq (by omega)]
    rfl
  have tokens := room.tokens
  have union : start + count - (start + 1 - layout.localCapacity) ≤
      scratch.sizes.maxComposedRows := by
    have := room.composed
    omega
  unfold chunkAttentionTile composeTileRows
  rw [length, if_neg (by omega), tail]
  simp only [bind, Except.bind, length, last]
  rw [if_neg (by omega)]
  refine ⟨_, rfl, rfl, rfl, rfl, ?_, rfl, ?_, ?_, ?_, ?_⟩
  · intro row below
    simp only [runAttentionTile] at below ⊢
    rw [if_pos below, if_pos below]
    refine ⟨?_, rfl⟩
    split
    next old =>
      rw [advancedRows_local]
      exact held.ring.cell _ old (by omega)
    next new =>
      have inside : start + 1 - layout.localCapacity + row - start < count := by omega
      rw [List.getD_eq_getElem?_getD, List.getElem?_map, historyRows_getElem inside]
      simp only [Option.map_some, Option.getD_some]
      congr 2
      omega
  · simp only [runAttentionTile]
    split
    · rfl
    next none_ =>
      by_cases sliding : layout.kind = .sliding
      · rw [LayerLayout.compressionRatio, sliding]
        exact (Nat.div_zero _).symm
      · exact (Nat.eq_zero_of_not_pos fun positive => none_ ⟨sliding, positive⟩).symm
  · intro index below
    have compressed : layout.compressionRatio ≠ 0 := by
      intro none_
      simp [runAttentionTile, none_] at below
    have entries : index < (start + count) / layout.compressionRatio := by
      refine Nat.lt_of_lt_of_le below ?_
      simp only [runAttentionTile]
      split
      · exact Nat.le_refl _
      · exact Nat.zero_le _
    have complete := (Nat.le_div_iff_mul_le (Nat.pos_of_ne_zero compressed)).mp entries
    obtain ⟨key, label, -⟩ := held.advanced_entries count compressed complete
    exact ⟨key, label⟩
  · intro other
    exact if_neg fun csa => other csa.1
  · intro csa
    simp only [runAttentionTile]
    by_cases live : 0 < (start + count) / layout.compressionRatio
    · right
      refine ⟨_, if_pos ⟨csa, live⟩, fun query inside committed => ?_⟩
      exact chunkIndexerSelect_selects held csa room context inside committed
    · left
      exact ⟨if_neg fun both => live both.2, if_neg fun both => live both.2⟩

end

end Launch

/--
Whatever the scratch buffers and the shared memory held: in every state a layer
reaches, a chunk of its next tokens that the scratch has room for launches the tile,
and the keys of each of its queries are the local rows of its window, once each and
with the key of their position, and the compressed entries of its kind.
-/
theorem chunkAttentionTile_causal_keys
    {layout : LayerLayout}
    {arithmetic : LayerArithmetic Row Score}
    {zero : Row}
    {history : Nat → ProjectedRow Row}
    {start count : Nat}
    {state : LayerState Row}
    (reached : Reaches layout arithmetic zero history start state)
    (scratch : BatchScratch Row Score)
    (tokens : 1 ≤ count ∧ count ≤ maxTokens)
    (workspace : Room layout scratch.sizes count (start + count - 1))
    (context : start + count ≤ layout.maxSeqLen) :
    ∃ tile, chunkAttentionTile layout arithmetic scratch state start
        (historyRows history start count) = .ok tile ∧
      ∀ query < count, ∀ shared : Nat → Nat, ∃ selection,
        Selects layout arithmetic history (start + query) selection ∧
          (tile.keyList query shared).map tile.keyRow =
            ((List.range' (start + query + 1 - layout.localCapacity)
                (start + query + 1 - (start + query + 1 - layout.localCapacity))).map
              fun position => (.localRow position, (history position).key)) ++
            selectedRows layout arithmetic history selection := by
  obtain ⟨tile, launched, holds⟩ := chunkAttentionTile_holds reached.fed tokens.1
    tokens.2 workspace context
  exact ⟨tile, launched, fun query inside shared => holds.keyList_eq inside shared⟩

/-- A small layer with an indexer. -/
def sampleLayout : LayerLayout where
  kind := .csa
  maxSeqLen := 64
  localCapacity := 3
  indexTopk := 2
  ring := Nat.succ_pos 2
  context := by decide

/-- Arithmetic on numbers: an entry is the sum of its rows. -/
def sampleArithmetic : LayerArithmetic Nat Nat where
  compressor := ⟨fun place score => score + place, fun _ rows =>
    (rows.map fun row => row.2.kv).sum⟩
  indexer := ⟨fun place score => score + place, fun _ rows =>
    (rows.map fun row => row.2.kv).sum⟩
  score := fun query weights key => query * weights + key + 1
  floor := 0
  finite := fun _ _ _ => Nat.succ_pos _

/-- A conversation in which everything computed for a position is the position. -/
def sampleHistory (position : Nat) : ProjectedRow Nat where
  query := position
  key := position
  compressor := ⟨position, position⟩
  indexerQuery := position
  indexerWeights := 1
  indexerCompressor := ⟨position, position⟩

/-- Buffers full of old contents, and the last thread to land is the last row's. -/
def sampleContents : ScratchContents Nat Nat where
  chunkKeys _ := 77
  composedKeys _ := 77
  composedPositions _ := 5
  indexerScores _ := 1000
  indexerTopk _ := 1
  landing _ := 9

/-- A scratch allocated for the layer and ten rows. -/
def sampleScratch : BatchScratch Nat Nat :=
  { sampleContents with sizes := .full sampleLayout.capacities 10 }

/-- Ten tokens behind seven: the queries see four entries at most, and two of them. -/
theorem sample_causal_keys :
    ∃ state, Reaches sampleLayout sampleArithmetic 0 sampleHistory 7 state ∧
      ∃ tile, chunkAttentionTile sampleLayout sampleArithmetic sampleScratch state 7
          (historyRows sampleHistory 7 10) = .ok tile ∧
        ∀ query < 10, ∀ shared : Nat → Nat, ∃ selection,
          Selects sampleLayout sampleArithmetic sampleHistory (7 + query) selection ∧
            (tile.keyList query shared).map tile.keyRow =
              ((List.range' (7 + query + 1 - 3)
                  (7 + query + 1 - (7 + query + 1 - 3))).map
                fun position => (.localRow position, (sampleHistory position).key)) ++
              selectedRows sampleLayout sampleArithmetic sampleHistory selection := by
  have reached : Reaches sampleLayout sampleArithmetic 0 sampleHistory (0 + 7) _ :=
    .chunk .reset (chunkState_inside (by decide))
  exact ⟨_, reached, chunkAttentionTile_causal_keys reached sampleScratch (by decide)
    ⟨by decide, by decide, by decide, by decide⟩ (by decide)⟩

end Aeon.Attention
