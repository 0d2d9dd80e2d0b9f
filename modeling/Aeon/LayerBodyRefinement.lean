import Aeon.AttentionTileKeys
import Aeon.LayerBody
import Aeon.MachineStack

namespace Aeon.Attention

open PositionRing (windowFirst slotPosition)
open PrefillWorkspace (maxTokens)

/-!
# A chunk computes what its tokens one by one compute

What the attention of a token sees is a function of the rows of its conversation, up
to its own.  Decode reads it off the ring and the entries as they are at the token,
the chunk composes it from the ring as it was before the chunk, the chunk's own keys
and the entries as they are behind the chunk.
-/

variable {Row Score Residual : Type} [LinearOrder Score]

namespace ModelLayer

variable (layer : ModelLayer Row Score Residual)

/-! ## What a token sees -/

/-- The keys of the window of a position, in the order of the ring's slots. -/
def causalRows
    (history : Nat → ProjectedRow Row)
    (position : Nat) : List Row :=
  (List.range (min layer.layout.localCapacity (position + 1))).map fun slot =>
    (history (slotPosition layer.layout.localCapacity
      (windowFirst layer.layout.localCapacity position) slot)).key

/-- An entry of the conversation. -/
def causalEntry
    (history : Nat → ProjectedRow Row)
    (index : Nat) : Row :=
  compressedEntry layer.layout layer.arithmetic.compressor
    (fun position => (history position).compressor) index

/-- The entries a position attends if it ranks them by some scores, in their order. -/
def rankedEntries
    (history : Nat → ProjectedRow Row)
    (scores : Nat → Score)
    (position : Nat) : List Row :=
  let committed := (position + 1) / layer.layout.compressionRatio
  if layer.layout.kind = .csa then
    (List.range (min committed layer.layout.indexTopk)).filterMap fun index =>
      let entry := (indexerTopk layer.arithmetic.floor scores committed
        layer.layout.indexTopk).getD index (-1)
      if 0 ≤ entry ∧ entry < committed then
        some (layer.causalEntry history entry.toNat)
      else
        none
  else
    (List.range committed).map (layer.causalEntry history)

/-- The residual a token leaves if it ranks the entries by some scores. -/
def rankedOutput
    (history : Nat → ProjectedRow Row)
    (scores : Nat → Score)
    (token position : Nat)
    (residual : Residual) : Residual :=
  layer.stages.finish token position residual
    (if layer.layout.kind = .sliding then
      layer.stages.attendSliding (history position).query
        (layer.causalRows history position)
    else
      layer.stages.attendCompressed (history position).query
        (layer.causalRows history position)
        (layer.rankedEntries history scores position))

/-- The residual a token leaves. -/
def causalOutput
    (history : Nat → ProjectedRow Row)
    (token position : Nat)
    (residual : Residual) : Residual :=
  layer.rankedOutput history (queryScores layer.layout layer.arithmetic history position)
    token position residual

variable {layer} {history : Nat → ProjectedRow Row} {state : LayerState Row}

/-- The entries of a state are those of the conversation up to a position. -/
def HoldsEntries
    (layer : ModelLayer Row Score Residual)
    (history : Nat → ProjectedRow Row)
    (position : Nat)
    (state : LayerState Row) : Prop :=
  ∀ index < (position + 1) / layer.layout.compressionRatio,
    state.compressedKeys index = layer.causalEntry history index ∧
      state.compressedPositions index ≤ position

/-- A selection is the kernel's on some scores, as far as it is read. -/
def HoldsSelection
    (layer : ModelLayer Row Score Residual)
    (scores : Nat → Score)
    (position : Nat)
    (selection : Nat → Int) : Prop :=
  (position + 1) / layer.layout.compressionRatio ≠ 0 →
    ∀ index < layer.layout.indexTopk, selection index =
      (indexerTopk layer.arithmetic.floor scores
        ((position + 1) / layer.layout.compressionRatio)
        layer.layout.indexTopk).getD index (-1)

/-- The compressed rows of a kernel depend on its state through the entries alone. -/
theorem attendedCompressed_eq
    {position : Nat}
    {scores : Nat → Score}
    {selection : Nat → Int}
    (entries : layer.HoldsEntries history position state)
    (selected : layer.layout.kind = .csa →
      layer.HoldsSelection scores position selection) :
    layer.attendedCompressed state position
        ((position + 1) / layer.layout.compressionRatio) selection =
      layer.rankedEntries history scores position := by
  unfold attendedCompressed rankedEntries
  by_cases csa : layer.layout.kind = .csa
  · simp only [csa, if_true]
    refine List.filterMap_congr fun index listed => ?_
    have below := List.mem_range.mp listed
    have own := selected csa (by omega) index (by omega)
    rw [← own]
    refine if_ctx_congr ?_ (fun kept => ?_) fun _ => rfl
    · refine ⟨fun both => both.1, fun real => ⟨real, ?_⟩⟩
      exact (entries _ (by omega)).2
    · rw [(entries _ (by omega)).1]
  · simp only [csa, if_false]
    rw [← List.filterMap_eq_map]
    refine List.filterMap_congr fun index listed => ?_
    obtain ⟨key, label⟩ := entries index (List.mem_range.mp listed)
    have inside := List.mem_range.mp listed
    rw [if_pos ⟨⟨by omega, by omega⟩, label⟩, Int.toNat_natCast, key]
    rfl

/-- A kernel on the rows of a window leaves the residual of the conversation. -/
theorem attentionKernel_eq
    {position : Nat}
    {localRows : TileRows Row}
    {scores : Nat → Score}
    {selection : Nat → Int}
    (kept : attendedLocal localRows.keys localRows.positions localRows.rows position =
      layer.causalRows history position)
    (entries : layer.layout.compressionRatio ≠ 0 →
      layer.HoldsEntries history position state)
    (selected : layer.layout.kind = .csa →
      layer.HoldsSelection scores position selection)
    (token : Nat)
    (residual : Residual) :
    layer.stages.finish token position residual
        (layer.attentionKernel state localRows (history position).query position
          ((position + 1) / layer.layout.compressionRatio) selection) =
      layer.rankedOutput history scores token position residual := by
  unfold attentionKernel rankedOutput
  simp only [kept]
  by_cases sliding : layer.layout.kind = .sliding
  · rw [if_pos sliding, if_pos sliding]
  · have compressed : layer.layout.compressionRatio ≠ 0 := by
      unfold LayerLayout.compressionRatio
      revert sliding
      cases layer.layout.kind <;> decide
    rw [if_neg sliding, if_neg sliding,
      attendedCompressed_eq (entries compressed) selected]

/-! ## Decode -/

/-- Decode finds the entries of the conversation in place, -/
theorem holdsEntries_of_fed
    {position count : Nat}
    (held : Fed layer.layout layer.arithmetic history count state)
    (behind : position < count)
    (compressed : layer.layout.compressionRatio ≠ 0) :
    layer.HoldsEntries history position state := by
  intro index complete
  have ratio_pos := Nat.pos_of_ne_zero compressed
  have whole := Nat.le_trans ((Nat.le_div_iff_mul_le ratio_pos).mp complete) behind
  obtain ⟨key, label⟩ := held.entries compressed index whole
  have causal := (boundaryOf_le compressed).mpr complete
  exact ⟨key, by omega⟩

/-- and its window in the ring. -/
theorem attendedLocal_ring
    {position : Nat}
    (held : Fed layer.layout layer.arithmetic history (position + 1) state) :
    attendedLocal state.localKeys state.localPositions layer.layout.localCapacity
        position =
      layer.causalRows history position := by
  have capacity_pos := layer.layout.ring
  have start : max 0 ((position : Int) - layer.layout.localCapacity + 1) =
      (windowFirst layer.layout.localCapacity position : Nat) := by
    unfold windowFirst
    omega
  unfold attendedLocal causalRows
  simp only [start]
  exact held.ring.window held.unwritten

/-- One token: the state fed by it, and the residual of the conversation. -/
theorem decodeBody_eq
    {token position : Nat}
    {residual : Residual}
    (held : Fed layer.layout layer.arithmetic history position state)
    (own : history position = layer.stages.project token position residual)
    (inside : position < layer.layout.maxSeqLen) :
    layer.decodeBody state token position residual =
      .ok (fed layer.layout layer.arithmetic state (history position) position,
        layer.causalOutput history token position residual) := by
  have after := held.step
  have committed := committedEntriesFor_eq inside
  unfold decodeBody
  simp only [← own, preAttentionTail_inside inside, committed, bind, Except.bind,
    Bool.false_eq_true, if_false]
  have same : advanced layer.layout layer.arithmetic
      (writeLocal layer.layout state position (history position).key) (history position)
      position = fed layer.layout layer.arithmetic state (history position) position := rfl
  rw [same]
  clear same held
  -- The proof needs of the new state only that it holds the history.
  generalize fed layer.layout layer.arithmetic state (history position) position = next
    at after ⊢
  refine congrArg (fun residual => Except.ok (_, residual))
    (@attentionKernel_eq _ _ _ _ layer history next position
      ⟨next.localKeys, next.localPositions, layer.layout.localCapacity⟩ _ _
      (attendedLocal_ring after) (holdsEntries_of_fed after (Nat.lt_succ_self _)) ?_ token
      residual)
  intro csa some_ index below
  have scores : ∀ candidate < (position + 1) / layer.layout.compressionRatio,
      rowScores layer.arithmetic next (history position)
          ((position + 1) / layer.layout.compressionRatio)
          (layer.decodeBuffers position).indexerScores candidate =
        queryScores layer.layout layer.arithmetic history position candidate := by
    intro candidate complete
    have ratio_pos := Nat.pos_of_ne_zero (csa_compressed csa)
    rw [rowScores, if_pos complete, after.indexerEntries csa candidate
      ((Nat.le_div_iff_mul_le ratio_pos).mp complete)]
    rfl
  rw [if_pos csa, selectIndexerTopk, if_neg some_]
  simp only [Nat.zero_add, Nat.zero_le, true_and, below, if_true, Nat.sub_zero]
  rw [indexerTopk_congr scores]

/-! ## The chunk -/

/-- The history has the rows of the inputs from a position on. -/
def Projects
    (layer : ModelLayer Row Score Residual)
    (history : Nat → ProjectedRow Row)
    (start : Nat)
    (inputs : List (Nat × Residual)) : Prop :=
  ∀ index token residual, inputs[index]? = some (token, residual) →
    history (start + index) = layer.stages.project token (start + index) residual

theorem Projects.tail
    {start : Nat}
    {input : Nat × Residual}
    {rest : List (Nat × Residual)}
    (projects : layer.Projects history start (input :: rest)) :
    layer.Projects history (start + 1) rest := by
  intro index token residual found
  have next := projects (index + 1) token residual (by simpa using found)
  rwa [show start + (index + 1) = start + 1 + index by omega] at next

/-- The rows of a chunk are those of the conversation. -/
theorem projectRows_eq
    {start : Nat}
    {inputs : List (Nat × Residual)}
    (projects : layer.Projects history start inputs) :
    layer.projectRows start inputs = historyRows history start inputs.length := by
  induction inputs generalizing start with
  | nil => rfl
  | cons input rest ih =>
    obtain ⟨token, residual⟩ := input
    have own := projects 0 token residual rfl
    rw [Nat.add_zero] at own
    rw [projectRows, ih projects.tail, ← own, List.length_cons,
      historyRows_succ]

/-- The residuals of a list of tokens, each ranking the entries by its own scores. -/
def rankedOutputs
    (layer : ModelLayer Row Score Residual)
    (history : Nat → ProjectedRow Row)
    (scores : Nat → Nat → Score) : Nat → List (Nat × Residual) → List Residual
  | _, [] => []
  | position, (token, residual) :: rest =>
    layer.rankedOutput history (scores position) token position residual ::
      rankedOutputs layer history scores (position + 1) rest

/-- The residuals of a list of tokens. -/
def causalOutputs
    (layer : ModelLayer Row Score Residual)
    (history : Nat → ProjectedRow Row) : Nat → List (Nat × Residual) → List Residual :=
  layer.rankedOutputs history (queryScores layer.layout layer.arithmetic history)

section Chunk

variable {start count : Nat} {scratch : BatchScratch Row Score}

/--
The composed rows are the window, from the ring before the chunk and its own keys.
-/
theorem composeLocalRows_eq
    (held : Fed layer.layout layer.arithmetic history start state)
    (composed : layer.layout.localCapacity ≤ scratch.sizes.maxComposedRows)
    {after : LayerState Row}
    (unmoved : after.localKeys = state.localKeys)
    {query : Nat}
    (inside : query < count) :
    ∃ composed, layer.composeLocalRows scratch after
        (fun index => ((historyRows history start count).map ProjectedRow.key).getD index
          (scratch.chunkKeys index)) start query (start + query) = .ok composed ∧
      attendedLocal composed.keys composed.positions composed.rows (start + query) =
        layer.causalRows history (start + query) := by
  have capacity_pos := layer.layout.ring
  have length : start + query + 1 - (start + query + 1 - layer.layout.localCapacity) =
      min layer.layout.localCapacity (start + query + 1) := by omega
  unfold composeLocalRows
  simp only [length]
  rw [if_neg (by omega), if_neg (by omega)]
  refine ⟨_, rfl, ?_⟩
  have first : max 0 ((start + query : Nat) -
      (min layer.layout.localCapacity (start + query + 1) : Nat) + 1 : Int) =
        (windowFirst layer.layout.localCapacity (start + query) : Nat) := by
    unfold windowFirst
    omega
  unfold attendedLocal causalRows
  simp only [first]
  refine Eq.trans (List.filterMap_congr fun slot listed => ?_)
    (congrFun List.filterMap_eq_map _)
  have below := List.mem_range.mp listed
  obtain ⟨low, high, own⟩ := PositionRing.slotPosition_spec below
  simp only [below, if_true]
  rw [← windowFirst, if_pos ⟨by omega, by omega⟩, Function.comp_apply]
  refine congrArg some ?_
  generalize slotPosition layer.layout.localCapacity
    (windowFirst layer.layout.localCapacity (start + query)) slot = position at *
  split
  next old =>
    have fits : start ≤ position + layer.layout.localCapacity := by
      unfold windowFirst at low
      omega
    rw [unmoved, ← own]
    exact held.ring.cell position old fits
  next new =>
    have written : position - start < count := by omega
    rw [List.getD_eq_getElem?_getD, List.getElem?_map, historyRows_getElem written,
      Option.map_some, Option.getD_some, show start + (position - start) = position by
        omega]

/-- If each row attends as it should, so does the chunk. -/
theorem finishRows_eq
    {after : LayerState Row}
    {chunkKeys : Nat → Row}
    {topk : Nat → Int}
    {scores : Nat → Nat → Score}
    (each : ∀ query < count, ∀ token residual,
      ∃ composed, layer.composeLocalRows scratch after chunkKeys start query
          (start + query) = .ok composed ∧
        layer.stages.finish token (start + query) residual
            (layer.attentionKernel after composed (history (start + query)).query
              (start + query) (layer.layout.committedEntriesFor (start + query))
              fun slot => topk (query * scratch.sizes.indexTopkPerToken + slot)) =
          layer.rankedOutput history (scores (start + query)) token (start + query)
            residual)
    {inputs : List (Nat × Residual)}
    {index : Nat}
    (inside : index + inputs.length ≤ count) :
    layer.finishRows scratch after chunkKeys topk start index inputs
        (historyRows history (start + index) inputs.length) =
      .ok (layer.rankedOutputs history scores (start + index) inputs) := by
  induction inputs generalizing index with
  | nil => rfl
  | cons input rest ih =>
    obtain ⟨token, residual⟩ := input
    rw [List.length_cons] at inside
    obtain ⟨composed, composes, finishes⟩ := each index (by omega) token residual
    rw [List.length_cons, historyRows_succ, finishRows, composes]
    simp only [bind, Except.bind]
    rw [Nat.add_assoc, ih (by omega), finishes]
    rfl

section

variable
    {inputs : List (Nat × Residual)}
    {sizes : PrefillWorkspace.BatchScratch}
    (held : Fed layer.layout layer.arithmetic history start state)
    (projects : layer.Projects history start inputs)
    (few : inputs.length ≤ maxTokens)

include held projects few

/--
A chunk leaves the state and the residuals of its tokens, whatever the score rows do to
each other: a token's entries are ranked by the scores its row ends up with.
-/
theorem chunkBody_ranked
    (tokens : inputs.length ≤ sizes.tokenCount)
    (composed : layer.layout.localCapacity ≤ sizes.maxComposedRows)
    (apart : layer.layout.kind = .csa →
      sizes.indexTopkPerToken = layer.layout.indexTopk)
    (context : start + inputs.length ≤ layer.layout.maxSeqLen)
    {scores : Nat → Nat → Score}
    (ranks : layer.layout.kind = .csa → ∀ query < inputs.length,
      ∀ candidate < (start + query + 1) / layer.layout.compressionRatio,
        chunkIndexerScores layer.layout layer.arithmetic
            { layer.contents start with sizes := sizes }
            (advancedRows layer.layout layer.arithmetic state start
              (historyRows history start inputs.length))
            start (historyRows history start inputs.length)
            (query * sizes.indexScoresPerToken + candidate) =
          scores (start + query) candidate) :
    layer.chunkBody sizes state start inputs =
      .ok (fedRows layer.layout layer.arithmetic state start
          (historyRows history start inputs.length),
        layer.rankedOutputs history scores start inputs) := by
  have length := @historyRows_length Row history start inputs.length
  have tail := @chunkTail_inside Row Score _ layer.layout layer.arithmetic
    (historyRows history start inputs.length) state start (by rw [length]; exact context)
  unfold chunkBody
  simp only
  by_cases empty : inputs.length = 0
  · obtain rfl := List.length_eq_zero_iff.mp empty
    rfl
  rw [if_neg empty, if_neg (by omega), projectRows_eq projects, tail]
  simp only [bind, Except.bind]
  generalize filled : BatchScratch.mk (layer.contents start) sizes = scratch at ranks ⊢
  obtain rfl : scratch.sizes = sizes := by rw [← filled]
  have keys : (layer.contents start).chunkKeys = scratch.chunkKeys := by rw [← filled]
  have rows := @finishRows_eq Row Score Residual _ layer history start inputs.length
    scratch
    (advancedRows layer.layout layer.arithmetic state start
      (historyRows history start inputs.length))
    (fun index => ((historyRows history start inputs.length).map ProjectedRow.key).getD
      index (scratch.chunkKeys index))
    (chunkIndexerSelect layer.layout layer.arithmetic scratch
      (advancedRows layer.layout layer.arithmetic state start
        (historyRows history start inputs.length)) start
      (historyRows history start inputs.length)) scores ?_ inputs 0 (by omega)
  · rw [Nat.add_zero] at rows
    rw [keys, rows, commitKeys_advancedRows]
  · intro query inside token residual
    have unmoved := @advancedRows_local Row Score _ layer.layout layer.arithmetic
      (historyRows history start inputs.length) state start
    obtain ⟨composed, composes, kept⟩ :=
      composeLocalRows_eq held composed unmoved inside
    refine ⟨composed, composes, ?_⟩
    rw [committedEntriesFor_eq (by omega)]
    refine attentionKernel_eq kept (fun compressed => ?_) (fun csa => ?_) token residual
    · intro index complete
      have ratio_pos := Nat.pos_of_ne_zero compressed
      have whole := Nat.le_trans ((Nat.le_div_iff_mul_le ratio_pos).mp complete)
        (by omega : start + query + 1 ≤ start + inputs.length)
      obtain ⟨key, label, -⟩ := held.advanced_entries inputs.length compressed whole
      have causal := (boundaryOf_le compressed).mpr complete
      exact ⟨key, by omega⟩
    · intro some_ index below
      simp only [apart csa]
      rw [chunkIndexerSelect_row csa (apart csa) context inside some_ below,
        indexerTopk_congr (ranks csa query inside)]

/-- On a scratch with room, the scores are each token's own. -/
theorem chunkBody_eq
    (room : Room layer.layout sizes inputs.length (start + inputs.length - 1))
    (context : start + inputs.length ≤ layer.layout.maxSeqLen) :
    layer.chunkBody sizes state start inputs =
      .ok (fedRows layer.layout layer.arithmetic state start
          (historyRows history start inputs.length),
        layer.causalOutputs history start inputs) :=
  chunkBody_ranked held projects few room.tokens
    (Nat.le_trans (Nat.le_add_right _ _) room.composed) room.topk context
    fun csa _ inside => chunkIndexerScores_eq held csa (room.scores csa) context inside

end

end Chunk

/-! ## Streams of tokens -/

/-- A token on its way through the layers: its position, its id and its residual. -/
structure TokenValue (Residual : Type) where
  position : Nat
  token : Nat
  residual : Residual

/-- The tokens from a position on. -/
def stream : Nat → List (Nat × Residual) → List (TokenValue Residual)
  | _, [] => []
  | position, (token, residual) :: rest =>
    ⟨position, token, residual⟩ :: stream (position + 1) rest

/-- A token at a decoding layer; a token the layer refuses changes nothing. -/
def decodeStep
    (layer : ModelLayer Row Score Residual)
    (state : LayerState Row)
    (value : TokenValue Residual) : LayerState Row × TokenValue Residual :=
  match layer.decodeBody state value.token value.position value.residual with
  | .ok (next, residual) => (next, { value with residual := residual })
  | .error _ => (state, value)

/-- What some history of `count` positions left. -/
def Reached
    (layer : ModelLayer Row Score Residual)
    (count : Nat)
    (state : LayerState Row) : Prop :=
  ∃ history, Fed layer.layout layer.arithmetic history count state

/-- The conversation of a state, taken on by the tokens to come. -/
theorem Reached.extend
    {start : Nat}
    (reached : layer.Reached start state)
    (inputs : List (Nat × Residual)) :
    ∃ history, Fed layer.layout layer.arithmetic history start state ∧
      layer.Projects history start inputs := by
  obtain ⟨history, held⟩ := reached
  refine ⟨fun position =>
    if position < start then
      history position
    else
      match inputs[position - start]? with
      | some (token, residual) => layer.stages.project token position residual
      | none => history position, ?_, ?_⟩
  · refine held.congr fun position before => ?_
    rw [if_pos before]
  · intro index token residual found
    simp only
    rw [if_neg (by omega), Nat.add_sub_cancel_left, found]

theorem causalOutputs_length
    (start : Nat)
    (inputs : List (Nat × Residual)) :
    (layer.causalOutputs history start inputs).length = inputs.length := by
  induction inputs generalizing start with
  | nil => rfl
  | cons input rest ih =>
    rw [causalOutputs, rankedOutputs, List.length_cons, List.length_cons]
    exact congrArg Nat.succ (ih _)

/-- Tokens one by one leave the residuals of the conversation. -/
theorem runOn_eq
    {start : Nat}
    {inputs : List (Nat × Residual)}
    (held : Fed layer.layout layer.arithmetic history start state)
    (projects : layer.Projects history start inputs)
    (context : start + inputs.length ≤ layer.layout.maxSeqLen) :
    MachineStack.runOn decodeStep layer state (stream start inputs) =
      (fedRows layer.layout layer.arithmetic state start
          (historyRows history start inputs.length),
        stream start ((inputs.map Prod.fst).zip
          (layer.causalOutputs history start inputs))) := by
  induction inputs generalizing start state with
  | nil => rfl
  | cons input rest ih =>
    obtain ⟨token, residual⟩ := input
    rw [List.length_cons] at context
    have own := projects 0 token residual rfl
    rw [Nat.add_zero] at own
    have step : decodeStep layer state ⟨start, token, residual⟩ =
        (fed layer.layout layer.arithmetic state (history start) start,
          ⟨start, token, layer.causalOutput history token start residual⟩) := by
      rw [decodeStep, decodeBody_eq held own (by omega)]
    rw [stream, MachineStack.runOn, step]
    simp only
    rw [ih held.step projects.tail (by omega), List.length_cons,
      historyRows_succ]
    rfl

/-- A chunk is its tokens one by one. -/
theorem chunkBody_runOn
    {start : Nat}
    {inputs : List (Nat × Residual)}
    (reached : layer.Reached start state)
    (few : inputs.length ≤ maxTokens)
    {sizes : PrefillWorkspace.BatchScratch}
    (room : Room layer.layout sizes inputs.length (start + inputs.length - 1))
    (context : start + inputs.length ≤ layer.layout.maxSeqLen) :
    ∃ next residuals, layer.chunkBody sizes state start inputs = .ok (next, residuals) ∧
      residuals.length = inputs.length ∧
      MachineStack.runOn decodeStep layer state (stream start inputs) =
        (next, stream start ((inputs.map Prod.fst).zip residuals)) ∧
      layer.Reached (start + inputs.length) next := by
  obtain ⟨history, held, projects⟩ := reached.extend inputs
  refine ⟨_, _, chunkBody_eq held projects few room context, causalOutputs_length _ _,
    runOn_eq held projects context, history, held.tokens inputs.length⟩

end ModelLayer

end Aeon.Attention
