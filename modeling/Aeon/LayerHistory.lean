import Aeon.LayerState
import Aeon.PositionRing

namespace Aeon.Attention

/-!
# What a layer holds of its conversation

After the tokens of positions `0 … count - 1` since a reset, the local ring holds the
last keys, the partial rings hold the last rows, and every complete ratio window has
its entry.  An entry is a function of the rows of its window and of nothing else, so
nothing of an earlier conversation is left in one.
-/

variable {Row Score : Type} [LinearOrder Score]

/-! ## The entries of a history -/

section Entries

variable (layout : LayerLayout) (compressor : Compressor Row)

/-- The position at which an entry is complete. -/
def boundaryOf (index : Nat) : Nat :=
  (index + 1) * layout.compressionRatio - 1

/-- The rows of a history that an entry is made of. -/
def historyRow
    (rows : Nat → CompressorRow Row)
    (boundary offset : Nat) : Option (Nat × CompressorRow Row) :=
  let source : Int := boundary - layout.partialCapacity + 1 + offset
  if source < 0 then
    none
  else
    some (offset / layout.compressionRatio,
      savedRow layout compressor source.toNat (rows source.toNat))

/-- An entry, computed from the rows of the conversation. -/
def compressedEntry
    (rows : Nat → CompressorRow Row)
    (index : Nat) : Row :=
  compressor.reduce
    (boundaryOf layout index / layout.compressionRatio * layout.compressionRatio)
    ((List.range layout.partialCapacity).filterMap
      (historyRow layout compressor rows (boundaryOf layout index)))

variable {layout} {compressor}

theorem compressedEntry_congr
    {rows others : Nat → CompressorRow Row}
    {index : Nat}
    (same : ∀ position ≤ boundaryOf layout index, rows position = others position) :
    compressedEntry layout compressor rows index =
      compressedEntry layout compressor others index := by
  unfold compressedEntry
  refine congrArg _ (List.filterMap_congr fun offset listed => ?_)
  have inside := List.mem_range.mp listed
  unfold historyRow
  simp only
  split
  · rfl
  · rw [same _ (by omega)]

theorem windowRow_eq_historyRow
    {ring : PartialRing Row}
    {rows : Nat → CompressorRow Row}
    {boundary : Nat}
    (holds : PositionRing.Holds layout.partialCapacity (boundary + 1) ring.rows
      ring.positions fun position => savedRow layout compressor position (rows position)) :
    (List.range layout.partialCapacity).filterMap (windowRow layout ring boundary) =
      (List.range layout.partialCapacity).filterMap
        (historyRow layout compressor rows boundary) := by
  refine List.filterMap_congr fun offset listed => ?_
  have inside := List.mem_range.mp listed
  unfold windowRow historyRow
  simp only
  split
  · rfl
  next real =>
    have cell := holds.cell
      ((boundary : Int) - layout.partialCapacity + 1 + offset).toNat (by omega) (by omega)
    have label := holds.label
      ((boundary : Int) - layout.partialCapacity + 1 + offset).toNat (by omega) (by omega)
    rw [if_neg (by rw [label]; omega), cell]

theorem materializeCompressedEntry_eq
    {ring : PartialRing Row}
    {rows : Nat → CompressorRow Row}
    {boundary : Nat}
    (holds : PositionRing.Holds layout.partialCapacity (boundary + 1) ring.rows
      ring.positions fun position => savedRow layout compressor position (rows position)) :
    materializeCompressedEntry layout compressor ring boundary =
      compressor.reduce (boundary / layout.compressionRatio * layout.compressionRatio)
        ((List.range layout.partialCapacity).filterMap
          (historyRow layout compressor rows boundary)) :=
  congrArg _ (windowRow_eq_historyRow holds)

end Entries

/-! ## The state after a history -/

/-- What a layer holds after the positions below `count`. -/
structure Fed
    (layout : LayerLayout)
    (arithmetic : LayerArithmetic Row Score)
    (history : Nat → ProjectedRow Row)
    (count : Nat)
    (state : LayerState Row) : Prop where
  ring : PositionRing.Holds layout.localCapacity count state.localKeys
    state.localPositions fun position => (history position).key
  unwritten : PositionRing.Unwritten layout.localCapacity count state.localPositions
  partialRing : layout.compressionRatio ≠ 0 →
    PositionRing.Holds layout.partialCapacity count state.compressor.rows
      state.compressor.positions fun position =>
        savedRow layout arithmetic.compressor position (history position).compressor
  indexerRing : layout.kind = .csa →
    PositionRing.Holds layout.partialCapacity count state.indexer.rows
      state.indexer.positions fun position =>
        savedRow layout arithmetic.indexer position (history position).indexerCompressor
  entries : layout.compressionRatio ≠ 0 →
    ∀ index, (index + 1) * layout.compressionRatio ≤ count →
      state.compressedKeys index =
          compressedEntry layout arithmetic.compressor
            (fun position => (history position).compressor) index ∧
        state.compressedPositions index = boundaryOf layout index
  indexerEntries : layout.kind = .csa →
    ∀ index, (index + 1) * layout.compressionRatio ≤ count →
      state.indexerKeys index =
        compressedEntry layout arithmetic.indexer
          (fun position => (history position).indexerCompressor) index

section Fields

variable {layout : LayerLayout} {arithmetic : LayerArithmetic Row Score}
  {state : LayerState Row} {row : ProjectedRow Row} {position : Nat}

theorem csa_compressed
    (csa : layout.kind = .csa) :
    layout.compressionRatio ≠ 0 := by
  simp [LayerLayout.compressionRatio, csa, AttentionKind.compressionRatio]

theorem fed_localKeys :
    (fed layout arithmetic state row position).localKeys =
      Function.update state.localKeys (position % layout.localCapacity) row.key := by
  unfold fed advanced feedCompressor recordedPosition savedPosition emittedEntry
  split_ifs <;> rfl

theorem fed_localPositions :
    (fed layout arithmetic state row position).localPositions =
      Function.update state.localPositions (position % layout.localCapacity)
        (position : Int) := by
  unfold fed advanced feedCompressor recordedPosition savedPosition emittedEntry
  split_ifs <;> rfl

theorem fed_compressor
    (compressed : layout.compressionRatio ≠ 0) :
    (fed layout arithmetic state row position).compressor =
      saveCompressorState layout arithmetic.compressor state.compressor position
        row.compressor := by
  unfold fed advanced feedCompressor recordedPosition savedPosition emittedEntry
  split_ifs <;> first | contradiction | rfl

theorem fed_indexer
    (csa : layout.kind = .csa) :
    (fed layout arithmetic state row position).indexer =
      saveCompressorState layout arithmetic.indexer state.indexer position
        row.indexerCompressor := by
  have compressed := csa_compressed csa
  unfold fed advanced feedCompressor recordedPosition savedPosition emittedEntry
  split_ifs <;> first | contradiction | rfl

/-- The compressed entries after a token: one more at a boundary, else the same. -/
theorem fed_compressed
    (compressed : layout.compressionRatio ≠ 0) :
    (fed layout arithmetic state row position).compressedKeys =
        (if (position + 1) % layout.compressionRatio = 0 then
          Function.update state.compressedKeys
            ((position + 1) / layout.compressionRatio - 1)
            (materializeCompressedEntry layout arithmetic.compressor
              (fed layout arithmetic state row position).compressor position)
        else
          state.compressedKeys) ∧
      (fed layout arithmetic state row position).compressedPositions =
        if (position + 1) % layout.compressionRatio = 0 then
          Function.update state.compressedPositions
            ((position + 1) / layout.compressionRatio - 1) (position : Int)
        else
          state.compressedPositions := by
  rw [fed_compressor compressed]
  unfold fed advanced feedCompressor recordedPosition savedPosition emittedEntry
  split_ifs <;> first | contradiction | exact ⟨rfl, rfl⟩

theorem fed_indexerKeys
    (csa : layout.kind = .csa) :
    (fed layout arithmetic state row position).indexerKeys =
      if (position + 1) % layout.compressionRatio = 0 then
        Function.update state.indexerKeys ((position + 1) / layout.compressionRatio - 1)
          (materializeCompressedEntry layout arithmetic.indexer
            (fed layout arithmetic state row position).indexer position)
      else
        state.indexerKeys := by
  rw [fed_indexer csa]
  have compressed := csa_compressed csa
  unfold fed advanced feedCompressor recordedPosition savedPosition emittedEntry
  split_ifs <;> first | contradiction | rfl

end Fields

section Histories

variable {layout : LayerLayout} {arithmetic : LayerArithmetic Row Score}
  {history : Nat → ProjectedRow Row} {count : Nat} {state : LayerState Row}

theorem reset_fed
    (zero : Row) :
    Fed layout arithmetic history 0 (resetGenerationState zero) where
  ring := PositionRing.holds_zero
  unwritten := fun _ _ _ => rfl
  partialRing := fun _ => PositionRing.holds_zero
  indexerRing := fun _ => PositionRing.holds_zero
  entries := fun compressed index below => by
    have positive : 0 < (index + 1) * layout.compressionRatio :=
      Nat.mul_pos index.succ_pos (Nat.pos_of_ne_zero compressed)
    omega
  indexerEntries := fun csa index below => by
    have positive : 0 < (index + 1) * layout.compressionRatio :=
      Nat.mul_pos index.succ_pos (Nat.pos_of_ne_zero (csa_compressed csa))
    omega

/-- A boundary completes exactly one entry. -/
theorem boundary_index
    {ratio position index : Nat}
    (ratio_pos : 0 < ratio)
    (below : (index + 1) * ratio ≤ position + 1)
    (new : ¬ (index + 1) * ratio ≤ position) :
    (position + 1) % ratio = 0 ∧ (position + 1) / ratio - 1 = index ∧
      (index + 1) * ratio - 1 = position := by
  have exact_ : position + 1 = (index + 1) * ratio := by omega
  rw [exact_, Nat.mul_mod_left, Nat.mul_div_cancel _ ratio_pos]
  omega

theorem boundary_other
    {ratio position index : Nat}
    (ratio_pos : 0 < ratio)
    (old : (index + 1) * ratio ≤ position)
    (boundary : (position + 1) % ratio = 0) :
    index ≠ (position + 1) / ratio - 1 := by
  intro same
  have whole := Nat.div_mul_cancel (Nat.dvd_of_mod_eq_zero boundary)
  have positive : 0 < (position + 1) / ratio :=
    Nat.div_pos (Nat.le_of_dvd (by omega) (Nat.dvd_of_mod_eq_zero boundary)) ratio_pos
  rw [same, Nat.sub_add_cancel positive, whole] at old
  omega

theorem entries_step
    {Value : Type}
    {ratio : Nat}
    (ratio_pos : 0 < ratio)
    {table : Nat → Value}
    (value : Nat → Value)
    (old : ∀ index, (index + 1) * ratio ≤ count → table index = value index)
    {new : Value}
    (newest : ∀ index, (index + 1) * ratio - 1 = count → new = value index) :
    ∀ index, (index + 1) * ratio ≤ count + 1 →
      (if (count + 1) % ratio = 0 then
        Function.update table ((count + 1) / ratio - 1) new
      else
        table) index = value index := by
  intro index below
  by_cases before : (index + 1) * ratio ≤ count
  · split
    next boundary =>
      rw [Function.update_of_ne (boundary_other ratio_pos before boundary)]
      exact old index before
    next => exact old index before
  · obtain ⟨boundary, place, position⟩ := boundary_index ratio_pos below before
    rw [if_pos boundary, place, Function.update_self]
    exact newest index position

/-- A token more. -/
theorem Fed.step
    (held : Fed layout arithmetic history count state) :
    Fed layout arithmetic history (count + 1)
      (fed layout arithmetic state (history count) count) := by
  have partialRing : layout.compressionRatio ≠ 0 →
      PositionRing.Holds layout.partialCapacity (count + 1)
        (fed layout arithmetic state (history count) count).compressor.rows
        (fed layout arithmetic state (history count) count).compressor.positions
        fun position => savedRow layout arithmetic.compressor position
          (history position).compressor := by
    intro compressed
    rw [fed_compressor compressed]
    exact (held.partialRing compressed).write
  have indexerRing : layout.kind = .csa →
      PositionRing.Holds layout.partialCapacity (count + 1)
        (fed layout arithmetic state (history count) count).indexer.rows
        (fed layout arithmetic state (history count) count).indexer.positions
        fun position => savedRow layout arithmetic.indexer position
          (history position).indexerCompressor := by
    intro csa
    rw [fed_indexer csa]
    exact (held.indexerRing csa).write
  refine ⟨?_, ?_, partialRing, indexerRing, ?_, ?_⟩
  · rw [fed_localKeys, fed_localPositions]
    exact held.ring.write
  · rw [fed_localPositions]
    exact held.unwritten.write
  · intro compressed index below
    obtain ⟨keys, positions⟩ :=
      @fed_compressed Row Score _ layout arithmetic state (history count) count compressed
    have ratio_pos := Nat.pos_of_ne_zero compressed
    constructor
    · rw [keys, materializeCompressedEntry_eq (partialRing compressed)]
      refine entries_step ratio_pos _
        (fun index before => (held.entries compressed index before).1) ?_ index below
      intro index position
      unfold compressedEntry boundaryOf
      rw [position]
    · rw [positions]
      refine entries_step ratio_pos (fun index => (boundaryOf layout index : Int))
        (fun index before => (held.entries compressed index before).2) ?_ index below
      intro index position
      unfold boundaryOf
      rw [position]
  · intro csa index below
    have ratio_pos := Nat.pos_of_ne_zero (csa_compressed csa)
    rw [fed_indexerKeys csa, materializeCompressedEntry_eq (indexerRing csa)]
    refine entries_step ratio_pos _ (held.indexerEntries csa) ?_ index below
    intro index position
    unfold compressedEntry boundaryOf
    rw [position]

theorem Fed.congr
    {other : Nat → ProjectedRow Row}
    (held : Fed layout arithmetic history count state)
    (same : ∀ position < count, history position = other position) :
    Fed layout arithmetic other count state where
  ring := held.ring.congr fun position below => by rw [same position below]
  unwritten := held.unwritten
  partialRing := fun compressed =>
    (held.partialRing compressed).congr fun position below => by rw [same position below]
  indexerRing := fun csa =>
    (held.indexerRing csa).congr fun position below => by rw [same position below]
  entries := fun compressed index complete => by
    obtain ⟨key, label⟩ := held.entries compressed index complete
    have positive : 0 < (index + 1) * layout.compressionRatio :=
      Nat.mul_pos index.succ_pos (Nat.pos_of_ne_zero compressed)
    refine ⟨key.trans (compressedEntry_congr fun position before => ?_), label⟩
    unfold boundaryOf at before
    rw [same position (by omega)]
  indexerEntries := fun csa index complete => by
    have positive : 0 < (index + 1) * layout.compressionRatio :=
      Nat.mul_pos index.succ_pos (Nat.pos_of_ne_zero (csa_compressed csa))
    refine (held.indexerEntries csa index complete).trans
      (compressedEntry_congr fun position before => ?_)
    unfold boundaryOf at before
    rw [same position (by omega)]

/-- Tokens more. -/
theorem Fed.rows
    {rows : List (ProjectedRow Row)}
    (held : Fed layout arithmetic history count state)
    (same : ∀ index row, rows[index]? = some row → history (count + index) = row) :
    Fed layout arithmetic history (count + rows.length)
      (fedRows layout arithmetic state count rows) := by
  induction rows generalizing count state with
  | nil => exact held
  | cons first rest ih =>
    have own : history count = first := same 0 first rfl
    have next := held.step
    rw [own] at next
    have others := ih next fun index row found => by
      have := same (index + 1) row (by simpa using found)
      rwa [Nat.add_assoc, Nat.add_comm 1]
    rw [List.length_cons, fedRows, Nat.add_comm rest.length, ← Nat.add_assoc]
    exact others

/-- The rows of a history from a position on. -/
def historyRows
    (history : Nat → ProjectedRow Row)
    (start count : Nat) : List (ProjectedRow Row) :=
  (List.range count).map fun index => history (start + index)

theorem historyRows_length
    (start count : Nat) :
    (historyRows history start count).length = count := by
  simp [historyRows]

theorem historyRows_getElem
    {start index : Nat}
    (inside : index < count) :
    (historyRows history start count)[index]? = some (history (start + index)) := by
  simp [historyRows, inside]

theorem historyRows_succ
    (start count : Nat) :
    historyRows history start (count + 1) =
      history start :: historyRows history (start + 1) count := by
  rw [historyRows, historyRows, List.range_succ_eq_map, List.map_cons, List.map_map,
    Nat.add_zero]
  refine congrArg _ (List.map_congr_left fun index _ => ?_)
  rw [Function.comp_apply, Nat.succ_eq_add_one, Nat.add_assoc, Nat.add_comm 1]

theorem Fed.tokens
    (held : Fed layout arithmetic history count state)
    (tokens : Nat) :
    Fed layout arithmetic history (count + tokens)
      (fedRows layout arithmetic state count (historyRows history count tokens)) := by
  have own : ∀ index row, (historyRows history count tokens)[index]? = some row →
      history (count + index) = row := by
    intro index row found
    obtain ⟨inside, same⟩ := List.getElem?_eq_some_iff.mp found
    simpa [historyRows] using same
  have after := held.rows own
  rwa [historyRows_length] at after

end Histories

/-! ## Every way to feed a layer -/

/-- The states a layer reaches from a reset, by single tokens and by chunks. -/
inductive Reaches
    (layout : LayerLayout)
    (arithmetic : LayerArithmetic Row Score)
    (zero : Row)
    (history : Nat → ProjectedRow Row) : Nat → LayerState Row → Prop
  | reset : Reaches layout arithmetic zero history 0 (resetGenerationState zero)
  | decode
      {count committed : Nat}
      {state next : LayerState Row} :
      Reaches layout arithmetic zero history count state →
      preAttentionTail layout arithmetic false state (history count) count =
        .ok (next, committed) →
      Reaches layout arithmetic zero history (count + 1) next
  | chunk
      {count tokens : Nat}
      {state next : LayerState Row} :
      Reaches layout arithmetic zero history count state →
      chunkState layout arithmetic state count (historyRows history count tokens) =
        .ok next →
      Reaches layout arithmetic zero history (count + tokens) next

theorem Reaches.fed
    {layout : LayerLayout}
    {arithmetic : LayerArithmetic Row Score}
    {zero : Row}
    {history : Nat → ProjectedRow Row}
    {count : Nat}
    {state : LayerState Row}
    (reached : Reaches layout arithmetic zero history count state) :
    Fed layout arithmetic history count state := by
  induction reached with
  | reset => exact reset_fed zero
  | @decode count committed state next _ returned held =>
    rcases Nat.lt_or_ge count layout.maxSeqLen with inside | outside
    · rw [preAttentionTail_inside inside] at returned
      have same := (Prod.mk.inj (Except.ok.inj returned)).1
      rw [← same]
      exact held.step
    · rw [preAttentionTail_outside outside] at returned
      exact nomatch returned
  | @chunk count tokens state next _ returned held =>
    rw [chunkState_ok returned]
    exact held.tokens tokens

end Aeon.Attention
