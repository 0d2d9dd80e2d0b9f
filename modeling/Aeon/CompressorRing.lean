import Aeon.AttentionTileKeys
import Mathlib.Data.Finset.Card
import Mathlib.Data.Finset.Range

namespace Aeon.Attention

open Function (update)

/-!
# The compressor ring keeps the rows it still needs

A partial ring is as long as the window of an entry, so the row that a position
overwrites is the first one no later entry reads.  Before the tail of a position the
rings hold the rows below it and the tables have the complete entries, each labelled
with its boundary.
-/

variable {Row Score : Type} [LinearOrder Score]

/-! ## The rows of a window -/

section Windows

variable (layout : LayerLayout) (compressor : Compressor Row)

/-- The rows a materialization takes from a ring, each with its segment. -/
def rowsRead
    (ring : PartialRing Row)
    (boundary : Nat) : List (Nat × CompressorRow Row) :=
  (List.range layout.partialCapacity).filterMap (windowRow layout ring boundary)

/--
The rows of the positions up to a boundary, as many as the window is long, each in the
segment that its place in the window gives it.
-/
def windowRows
    (rows : Nat → CompressorRow Row)
    (boundary : Nat) : List (Nat × CompressorRow Row) :=
  let first := PositionRing.windowFirst layout.partialCapacity boundary
  (List.range' first (boundary + 1 - first)).map fun position =>
    ((position + layout.partialCapacity - (boundary + 1)) / layout.compressionRatio,
      savedRow layout compressor position (rows position))

variable {layout} {compressor}

/-- The offsets of a window that reach back to a position of the conversation. -/
theorem historyRows_window
    (rows : Nat → CompressorRow Row)
    (boundary : Nat) :
    (List.range layout.partialCapacity).filterMap
        (historyRow layout compressor rows boundary) =
      windowRows layout compressor rows boundary := by
  let first := PositionRing.windowFirst layout.partialCapacity boundary
  have firstIs : first = boundary + 1 - layout.partialCapacity := rfl
  obtain ⟨skipped, split⟩ := Nat.exists_eq_add_of_le'
    (show boundary + 1 - first ≤ layout.partialCapacity by omega)
  have early : (List.range skipped).filterMap
      (historyRow layout compressor rows boundary) = [] := by
    refine List.filterMap_eq_nil_iff.mpr fun offset listed => if_pos ?_
    have := List.mem_range.mp listed
    omega
  rw [split, List.range_add, List.filterMap_append, early, List.nil_append, windowRows,
    List.range'_eq_map_range, List.map_map, List.filterMap_map, ← List.filterMap_eq_map]
  refine List.filterMap_congr fun index listed => ?_
  have inside := List.mem_range.mp listed
  have source : (boundary : Int) - layout.partialCapacity + 1 + (skipped + index : Nat) =
      (first + index : Nat) := by
    omega
  have place : first + index + layout.partialCapacity - (boundary + 1) =
      skipped + index := by
    omega
  simp only [Function.comp_apply, historyRow, source, Int.toNat_natCast]
  rw [if_neg (by omega)]
  exact congrArg some (Prod.ext (congrArg (· / _) place.symm) rfl)

theorem rowsRead_eq
    {ring : PartialRing Row}
    {rows : Nat → CompressorRow Row}
    {boundary : Nat}
    (holds : PositionRing.Holds layout.partialCapacity (boundary + 1) ring.rows
      ring.positions fun position => savedRow layout compressor position (rows position)) :
    rowsRead layout ring boundary = windowRows layout compressor rows boundary :=
  (windowRow_eq_historyRow holds).trans (historyRows_window rows boundary)

end Windows

/-! ## The entries in the tables -/

/-- The label of an entry after the positions below `count`. -/
def entryLabel (ratio count index : Nat) : Int :=
  if (index + 1) * ratio ≤ count then ((index + 1) * ratio - 1 : Nat) else -1

theorem labels_step
    {ratio count : Nat}
    (ratio_pos : 0 < ratio)
    {table : Nat → Int}
    (old : ∀ index, table index = entryLabel ratio count index)
    (index : Nat) :
    (if (count + 1) % ratio = 0 then
      update table ((count + 1) / ratio - 1) (count : Int)
    else
      table) index = entryLabel ratio (count + 1) index := by
  by_cases new : (index + 1) * ratio ≤ count + 1 ∧ ¬ (index + 1) * ratio ≤ count
  · obtain ⟨boundary, place, position⟩ := boundary_index ratio_pos new.1 new.2
    rw [if_pos boundary, place, Function.update_self, entryLabel, if_pos new.1, position]
  · have same : entryLabel ratio (count + 1) index = entryLabel ratio count index := by
      unfold entryLabel
      split_ifs <;> first | rfl | omega
    rw [same, ← old index]
    split
    next boundary =>
      refine Function.update_of_ne (fun place => new ?_) _ _
      have whole := Nat.div_mul_cancel (Nat.dvd_of_mod_eq_zero boundary)
      have positive := Nat.div_pos
        (Nat.le_of_dvd (by omega) (Nat.dvd_of_mod_eq_zero boundary)) ratio_pos
      rw [place, Nat.sub_add_cancel positive, whole]
      omega
    next => rfl

/-- The entries of a table that have been written since the reset. -/
def materializedEntries
    (layout : LayerLayout)
    (labels : Nat → Int) : Nat :=
  ((Finset.range layout.compressedCapacity).filter fun index => labels index ≠ -1).card

section Counts

variable {layout : LayerLayout}

/-- No boundary within the context is beyond the tables. -/
theorem entries_fit
    (compressed : layout.compressionRatio ≠ 0)
    {position : Nat}
    (inside : position < layout.maxSeqLen) :
    (position + 1) / layout.compressionRatio ≤ layout.compressedCapacity := by
  rw [← committedEntriesFor_eq inside, LayerLayout.committedEntriesFor, if_neg compressed]
  exact Nat.min_le_left _ _

theorem materializedEntries_eq
    (compressed : layout.compressionRatio ≠ 0)
    {position : Nat}
    (inside : position < layout.maxSeqLen)
    {labels : Nat → Int}
    (labelled : ∀ index,
      labels index = entryLabel layout.compressionRatio (position + 1) index) :
    materializedEntries layout labels = layout.committedEntriesFor position := by
  have fit := entries_fit compressed inside
  have written : ((Finset.range layout.compressedCapacity).filter fun index =>
      labels index ≠ -1) =
        Finset.range ((position + 1) / layout.compressionRatio) := by
    ext index
    have complete := Nat.le_div_iff_mul_le (x := index + 1) (y := position + 1)
      (Nat.pos_of_ne_zero compressed)
    rw [Finset.mem_filter, Finset.mem_range, Finset.mem_range, labelled, entryLabel]
    split <;> omega
  rw [materializedEntries, written, Finset.card_range, committedEntriesFor_eq inside]

end Counts

/-! ## Before the tail of a position -/

/-- What the compressor and the indexer hold after the positions below `count`. -/
structure Compressing
    (layout : LayerLayout)
    (arithmetic : LayerArithmetic Row Score)
    (history : Nat → ProjectedRow Row)
    (count : Nat)
    (state : LayerState Row) : Prop where
  ring :
    PositionRing.Holds layout.partialCapacity count state.compressor.rows
      state.compressor.positions fun position =>
        savedRow layout arithmetic.compressor position (history position).compressor
  indexerRing : layout.kind = .csa →
    PositionRing.Holds layout.partialCapacity count state.indexer.rows
      state.indexer.positions fun position =>
        savedRow layout arithmetic.indexer position (history position).indexerCompressor
  labels : ∀ index,
    state.compressedPositions index = entryLabel layout.compressionRatio count index
  indexerLabels : layout.kind = .csa → ∀ index,
    state.indexerPositions index = entryLabel layout.compressionRatio count index

section Runs

variable {layout : LayerLayout} {arithmetic : LayerArithmetic Row Score}
  {history : Nat → ProjectedRow Row} {count : Nat} {state : LayerState Row}

/-- The local ring is not read. -/
theorem Compressing.commitKeys
    (compressing : Compressing layout arithmetic history count state)
    (keys : List Row)
    (position : Nat) :
    Compressing layout arithmetic history count
      (commitKeys layout state position keys) := by
  induction keys generalizing state position with
  | nil => exact compressing
  | cons key rest ih =>
    have written : Compressing layout arithmetic history count
        (writeLocal layout state position key) :=
      ⟨compressing.ring, compressing.indexerRing, compressing.labels,
        compressing.indexerLabels⟩
    exact ih written (position + 1)

theorem advanced_buffers
    (compressed : layout.compressionRatio ≠ 0)
    (state : LayerState Row)
    (row : ProjectedRow Row)
    (position : Nat) :
    (advanced layout arithmetic state row position).compressor =
        saveCompressorState layout arithmetic.compressor state.compressor position
          row.compressor ∧
      (advanced layout arithmetic state row position).compressedKeys =
        (if (position + 1) % layout.compressionRatio = 0 then
          update state.compressedKeys
            ((position + 1) / layout.compressionRatio - 1)
            (materializeCompressedEntry layout arithmetic.compressor
              (saveCompressorState layout arithmetic.compressor state.compressor position
                row.compressor) position)
        else
          state.compressedKeys) ∧
      (advanced layout arithmetic state row position).compressedPositions =
        (if (position + 1) % layout.compressionRatio = 0 then
          update state.compressedPositions
            ((position + 1) / layout.compressionRatio - 1) (position : Int)
        else
          state.compressedPositions) ∧
      (layout.kind = .csa →
        (advanced layout arithmetic state row position).indexer =
            saveCompressorState layout arithmetic.indexer state.indexer position
              row.indexerCompressor ∧
          (advanced layout arithmetic state row position).indexerKeys =
            (if (position + 1) % layout.compressionRatio = 0 then
              update state.indexerKeys
                ((position + 1) / layout.compressionRatio - 1)
                (materializeCompressedEntry layout arithmetic.indexer
                  (saveCompressorState layout arithmetic.indexer state.indexer position
                    row.indexerCompressor) position)
            else
              state.indexerKeys) ∧
          (advanced layout arithmetic state row position).indexerPositions =
            if (position + 1) % layout.compressionRatio = 0 then
              update state.indexerPositions
                ((position + 1) / layout.compressionRatio - 1) (position : Int)
            else
              state.indexerPositions) := by
  unfold advanced feedCompressor recordedPosition savedPosition emittedEntry
  split_ifs <;> first
    | contradiction
    | exact ⟨rfl, rfl, rfl, fun _ => ⟨rfl, rfl, rfl⟩⟩
    | exact ⟨rfl, rfl, rfl, fun csa => absurd csa ‹_›⟩

theorem reset_compressing
    (compressed : layout.compressionRatio ≠ 0)
    (zero : Row) :
    Compressing layout arithmetic history 0 (resetGenerationState zero) := by
  have unlabelled (index : Nat) : (-1 : Int) = entryLabel layout.compressionRatio 0 index := by
    have positive : 0 < (index + 1) * layout.compressionRatio :=
      Nat.mul_pos index.succ_pos (Nat.pos_of_ne_zero compressed)
    rw [entryLabel, if_neg (by omega)]
  exact ⟨PositionRing.holds_zero, fun _ => PositionRing.holds_zero, unlabelled,
    fun _ => unlabelled⟩

/-- The tail of a position. -/
theorem Compressing.advance
    (compressed : layout.compressionRatio ≠ 0)
    (compressing : Compressing layout arithmetic history count state) :
    Compressing layout arithmetic history (count + 1)
      (advanced layout arithmetic state (history count) count) := by
  obtain ⟨ring, -, labels, indexer⟩ :=
    @advanced_buffers _ _ _ layout arithmetic compressed state (history count) count
  have ratio_pos := Nat.pos_of_ne_zero compressed
  refine ⟨?_, fun csa => ?_, fun index => ?_, fun csa index => ?_⟩
  · rw [ring]
    exact compressing.ring.write
  · rw [(indexer csa).1]
    exact (compressing.indexerRing csa).write
  · rw [labels, ← labels_step ratio_pos compressing.labels]
  · rw [(indexer csa).2.2, ← labels_step ratio_pos (compressing.indexerLabels csa)]

theorem Compressing.advancedRows
    (compressed : layout.compressionRatio ≠ 0)
    (compressing : Compressing layout arithmetic history count state)
    (tokens : Nat) :
    Compressing layout arithmetic history (count + tokens)
      (advancedRows layout arithmetic state count (historyRows history count tokens)) := by
  induction tokens generalizing count state with
  | zero => exact compressing
  | succ tokens ih =>
    rw [historyRows_succ, Attention.advancedRows, ← Nat.add_assoc, Nat.add_right_comm]
    exact ih (compressing.advance compressed)

/-- However a layer was fed, it holds what its positions left. -/
theorem Reaches.compressing
    {zero : Row}
    (compressed : layout.compressionRatio ≠ 0)
    (reached : Reaches layout arithmetic zero history count state) :
    Compressing layout arithmetic history count state := by
  induction reached with
  | reset => exact reset_compressing compressed zero
  | @decode count committed state next _ returned compressing =>
    rcases Nat.lt_or_ge count layout.maxSeqLen with inside | outside
    · rw [preAttentionTail_inside inside] at returned
      rw [← (Prod.mk.inj (Except.ok.inj returned)).1]
      exact (compressing.commitKeys [(history count).key] count).advance compressed
    · rw [preAttentionTail_outside outside] at returned
      cases returned
  | @chunk count tokens state next _ returned compressing =>
    rw [chunkState_ok returned, ← commitKeys_advancedRows]
    exact (compressing.advancedRows compressed tokens).commitKeys _ count

/--
The states from which the tail of a position is run: by decode behind the positions
below it, or in a chunk behind the rows of the chunk in front of it.
-/
inductive TailStarts
    (layout : LayerLayout)
    (arithmetic : LayerArithmetic Row Score)
    (zero : Row)
    (history : Nat → ProjectedRow Row) : Bool → Nat → LayerState Row → Prop
  | decode
      {count : Nat}
      {state : LayerState Row} :
      Reaches layout arithmetic zero history count state →
      TailStarts layout arithmetic zero history false count state
  | chunk
      {count tokens : Nat}
      {state between : LayerState Row}
      {committed : List Nat} :
      Reaches layout arithmetic zero history count state →
      chunkTail layout arithmetic state count (historyRows history count tokens) =
        .ok (between, committed) →
      TailStarts layout arithmetic zero history true (count + tokens) between

theorem TailStarts.compressing
    {zero : Row}
    {deferKeyWrite : Bool}
    {position : Nat}
    (compressed : layout.compressionRatio ≠ 0)
    (starts : TailStarts layout arithmetic zero history deferKeyWrite position state) :
    Compressing layout arithmetic history position state := by
  cases starts with
  | decode reached => exact reached.compressing compressed
  | @chunk count tokens before _ committed reached returned =>
    have held := (reached.compressing compressed).advancedRows compressed tokens
    rcases chunkTail_ok returned with none | inside
    · rw [none] at returned held
      rwa [← (Prod.mk.inj (Except.ok.inj returned)).1]
    · rw [chunkTail_inside inside] at returned
      rwa [← (Prod.mk.inj (Except.ok.inj returned)).1]

end Runs

/-! ## What the tail of a position does -/

/--
The entry a boundary writes: the rows read are the whole window, each with its own
values, and the table gets one entry at an index that was never written.
-/
structure WritesEntry
    (layout : LayerLayout)
    (compressor : Compressor Row)
    (rows : Nat → CompressorRow Row)
    (position : Nat)
    (ring : PartialRing Row)
    (keys nextKeys : Nat → Row)
    (labels nextLabels : Nat → Int) : Prop where
  read : rowsRead layout ring position = windowRows layout compressor rows position
  inside : (position + 1) / layout.compressionRatio - 1 < layout.compressedCapacity
  boundary : position = boundaryOf layout ((position + 1) / layout.compressionRatio - 1)
  fresh : labels ((position + 1) / layout.compressionRatio - 1) = -1
  key : nextKeys = update keys ((position + 1) / layout.compressionRatio - 1)
    (compressor.reduce (position / layout.compressionRatio * layout.compressionRatio)
      (windowRows layout compressor rows position))
  label : nextLabels =
    update labels ((position + 1) / layout.compressionRatio - 1) (position : Int)

/-- What the tail of a position leaves of the tables, and its counts. -/
structure KeepsRows
    (layout : LayerLayout)
    (arithmetic : LayerArithmetic Row Score)
    (history : Nat → ProjectedRow Row)
    (position committed : Nat)
    (state next : LayerState Row) : Prop where
  derived : committed = layout.committedEntriesFor position
  counted : next.compressedEntryCount = committed
  materialized : materializedEntries layout next.compressedPositions = committed
  indexerCounted : layout.kind = .csa →
    next.indexerCandidateCount = committed ∧
      materializedEntries layout next.indexerPositions = committed
  between : (position + 1) % layout.compressionRatio ≠ 0 →
    next.compressedKeys = state.compressedKeys ∧
      next.compressedPositions = state.compressedPositions ∧
      (layout.kind = .csa →
        next.indexerKeys = state.indexerKeys ∧
          next.indexerPositions = state.indexerPositions)
  atBoundary : (position + 1) % layout.compressionRatio = 0 →
    WritesEntry layout arithmetic.compressor
        (fun place => (history place).compressor) position next.compressor
        state.compressedKeys next.compressedKeys state.compressedPositions
        next.compressedPositions ∧
      (layout.kind = .csa →
        WritesEntry layout arithmetic.indexer
          (fun place => (history place).indexerCompressor) position next.indexer
          state.indexerKeys next.indexerKeys state.indexerPositions
          next.indexerPositions)

section Tails

variable {layout : LayerLayout} {arithmetic : LayerArithmetic Row Score}
  {history : Nat → ProjectedRow Row} {position : Nat} {state : LayerState Row}

theorem writesEntry
    {compressor : Compressor Row}
    {rows : Nat → CompressorRow Row}
    {ring : PartialRing Row}
    {keys : Nat → Row}
    {labels : Nat → Int}
    (compressed : layout.compressionRatio ≠ 0)
    (inside : position < layout.maxSeqLen)
    (boundary : (position + 1) % layout.compressionRatio = 0)
    (holds : PositionRing.Holds layout.partialCapacity (position + 1) ring.rows
      ring.positions fun place => savedRow layout compressor place (rows place))
    (labelled : ∀ index,
      labels index = entryLabel layout.compressionRatio position index) :
    WritesEntry layout compressor rows position ring keys
      (update keys ((position + 1) / layout.compressionRatio - 1)
        (materializeCompressedEntry layout compressor ring position))
      labels
      (update labels ((position + 1) / layout.compressionRatio - 1)
        (position : Int)) := by
  have divides := Nat.dvd_of_mod_eq_zero boundary
  have positive := Nat.div_pos (Nat.le_of_dvd (by omega) divides)
    (Nat.pos_of_ne_zero compressed)
  have whole := Nat.div_mul_cancel divides
  have fit := entries_fit compressed inside
  refine ⟨rowsRead_eq holds, by omega, ?_, ?_, ?_, rfl⟩
  · rw [boundaryOf, Nat.sub_add_cancel positive, whole, Nat.add_sub_cancel]
  · rw [labelled, entryLabel, Nat.sub_add_cancel positive, whole, if_neg (by omega)]
  · rw [materializeCompressedEntry_eq holds, historyRows_window]

theorem advanced_counts
    (compressed : layout.compressionRatio ≠ 0)
    (state : LayerState Row)
    (row : ProjectedRow Row)
    (position : Nat) :
    (advanced layout arithmetic state row position).compressedEntryCount =
        layout.committedEntriesFor position ∧
      (layout.kind = .csa →
        (advanced layout arithmetic state row position).indexerCandidateCount =
          layout.committedEntriesFor position) := by
  unfold advanced feedCompressor recordedPosition savedPosition emittedEntry
    LayerLayout.committedEntriesFor
  split_ifs <;> first
    | contradiction
    | exact ⟨rfl, fun _ => rfl⟩
    | exact ⟨rfl, fun csa => absurd csa ‹_›⟩

theorem Compressing.keepsRows
    (compressed : layout.compressionRatio ≠ 0)
    (inside : position < layout.maxSeqLen)
    (compressing : Compressing layout arithmetic history position state) :
    KeepsRows layout arithmetic history position (layout.committedEntriesFor position)
      state (advanced layout arithmetic state (history position) position) := by
  have after := compressing.advance compressed
  obtain ⟨ring, keys, labels, indexer⟩ :=
    @advanced_buffers _ _ _ layout arithmetic compressed state (history position) position
  obtain ⟨counted, candidates⟩ :=
    @advanced_counts _ _ _ layout arithmetic compressed state (history position) position
  refine
    { derived := rfl
      counted := counted
      materialized := materializedEntries_eq compressed inside after.labels
      indexerCounted := fun csa => ⟨candidates csa,
        materializedEntries_eq compressed inside (after.indexerLabels csa)⟩
      between := fun inner => ?_
      atBoundary := fun boundary => ?_ }
  · rw [keys, labels, if_neg inner, if_neg inner]
    refine ⟨rfl, rfl, fun csa => ?_⟩
    rw [(indexer csa).2.1, (indexer csa).2.2, if_neg inner, if_neg inner]
    exact ⟨rfl, rfl⟩
  · rw [keys, labels, if_pos boundary, if_pos boundary, ← ring]
    refine ⟨writesEntry compressed inside boundary after.ring compressing.labels,
      fun csa => ?_⟩
    rw [(indexer csa).2.1, (indexer csa).2.2, if_pos boundary, if_pos boundary,
      ← (indexer csa).1]
    exact writesEntry compressed inside boundary (after.indexerRing csa)
      (compressing.indexerLabels csa)

/--
However a compressed layer is fed, the tail of a position finds every row of its window
in the ring, writes each entry once, at its boundary, and keeps the counts.
-/
theorem preAttentionTail_keepsRows
    {zero : Row}
    {deferKeyWrite : Bool}
    {committed : Nat}
    {next : LayerState Row}
    (compressed : layout.compressionRatio ≠ 0)
    (starts : TailStarts layout arithmetic zero history deferKeyWrite position state)
    (returned : preAttentionTail layout arithmetic deferKeyWrite state (history position)
      position = .ok (next, committed)) :
    KeepsRows layout arithmetic history position committed state next := by
  have inside : position < layout.maxSeqLen := by
    by_contra outside
    rw [preAttentionTail_outside (Nat.not_lt.mp outside)] at returned
    cases returned
  rw [preAttentionTail_inside inside] at returned
  obtain ⟨rfl, rfl⟩ := Prod.mk.inj (Except.ok.inj returned)
  have before := starts.compressing compressed
  cases deferKeyWrite with
  | true => exact before.keepsRows compressed inside
  | false =>
    have written := before.commitKeys [(history position).key] position
    have kept := written.keepsRows compressed inside
    -- The key that decode writes first is in none of the tables.
    exact ⟨kept.derived, kept.counted, kept.materialized, kept.indexerCounted,
      kept.between, kept.atBoundary⟩

/-- The second boundary of a small layer, in a chunk of five tokens behind three. -/
theorem preAttentionTail_keepsRows_seven :
    ∃ between next committed,
      TailStarts sampleLayout sampleArithmetic 0 sampleHistory true (3 + 4) between ∧
        preAttentionTail sampleLayout sampleArithmetic true between (sampleHistory 7) 7 =
          .ok (next, committed) ∧
        KeepsRows sampleLayout sampleArithmetic sampleHistory (3 + 4) committed between
          next := by
  have reached : Reaches sampleLayout sampleArithmetic 0 sampleHistory (0 + 3) _ :=
    .chunk .reset (chunkState_inside (by decide))
  have starts : TailStarts sampleLayout sampleArithmetic 0 sampleHistory true (3 + 4) _ :=
    .chunk reached (chunkTail_inside (by decide))
  exact ⟨_, _, _, starts, preAttentionTail_inside (by decide),
    preAttentionTail_keepsRows (by decide) starts (preAttentionTail_inside (by decide))⟩

end Tails

end Aeon.Attention
