import Aeon.ForwardWindow
import Mathlib.Data.List.Perm.Subperm

namespace Aeon.Attention

open PrefillWorkspace (Workspace maxTokens)

/-!
# A window on a scratch of another layer's width

A window of more rows than the workspace was loaded for re-sizes the scratch for its
first layer.  An indexer behind it then scores its candidates into rows that reach into
each other, and a query selects by its neighbours' scores.
-/

variable {Row Score Residual : Type} [LinearOrder Score]

/-! ## The selection of a row -/

/-- The entries a row attends are those of a best selection. -/
theorem ModelLayer.rankedEntries_selection
    {layer : ModelLayer Row Score Residual}
    {scores : Nat → Score}
    {position : Nat}
    (csa : layer.layout.kind = .csa)
    (above : ∀ candidate < (position + 1) / layer.layout.compressionRatio,
      layer.arithmetic.floor < scores candidate)
    (history : Nat → ProjectedRow Row) :
    ∃ selection,
      BestSelection scores ((position + 1) / layer.layout.compressionRatio)
        (min layer.layout.indexTopk ((position + 1) / layer.layout.compressionRatio))
        selection ∧
      layer.rankedEntries history scores position =
        selection.map (layer.causalEntry history) := by
  obtain ⟨selection, best, chosen⟩ := indexerTopk_best above layer.layout.indexTopk
  refine ⟨selection, best, ?_⟩
  have read := filterMap_getD (selection.map Int.ofNat) (-1) fun entry =>
    if 0 ≤ entry ∧ entry < ((position + 1) / layer.layout.compressionRatio : Nat) then
      some (layer.causalEntry history entry.toNat)
    else
      none
  rw [List.length_map, best.length, Nat.min_comm, List.filterMap_map] at read
  unfold rankedEntries
  simp only [csa, if_true]
  rw [chosen]
  simp only [getD_append_replicate]
  rw [read, ← List.filterMap_eq_map]
  refine List.filterMap_congr fun index listed => ?_
  exact if_pos ⟨Int.natCast_nonneg index, Int.ofNat_lt.mpr (best.inside index listed)⟩

section

variable
    {scores : Nat → Nat}
    {count : Nat}
    {selection : List Nat}

/-- A candidate above all others is selected. -/
theorem BestSelection.mem_of_highest
    {size : Nat}
    (best : BestSelection scores count size selection)
    (nonzero : size ≠ 0)
    {candidate : Nat}
    (inside : candidate < count)
    (highest : ∀ other < count, other ≠ candidate → scores other < scores candidate) :
    candidate ∈ selection := by
  by_contra out
  have filled : selection ≠ [] := by
    intro empty
    rw [empty] at best
    exact nonzero best.length.symm
  obtain ⟨other, listed⟩ := List.exists_mem_of_ne_nil selection filled
  have below := highest other (best.inside other listed) fun same => out (same ▸ listed)
  rcases best.best other listed candidate inside out with higher | ⟨tie, -⟩
  · exact absurd below (Nat.lt_asymm higher)
  · exact absurd tie (Nat.ne_of_gt below)

/-- Among equals the last candidate is left out as soon as one is. -/
theorem BestSelection.last_not_mem
    {size : Nat}
    (best : BestSelection scores (count + 1) size selection)
    (few : size < count)
    (ties : ∀ candidate < count + 1, scores candidate = scores count) :
    count ∉ selection := by
  intro listed
  have missing : ∃ other < count + 1, other ∉ selection := by
    by_contra all
    push Not at all
    have covered : (List.range (count + 1)).length ≤ selection.length :=
      (List.Nodup.subperm List.nodup_range fun other inside =>
        all other (List.mem_range.mp inside)).length_le
    rw [List.length_range, best.length] at covered
    omega
  obtain ⟨other, inside, out⟩ := missing
  have different : other ≠ count := fun same => out (same ▸ listed)
  have equal := ties other inside
  rcases best.best count listed other inside out with higher | ⟨-, before⟩
  · omega
  · omega

end

/-! ## The stack -/

/-- A layer at a context of 4096. -/
def narrowLayout (kind : AttentionKind) : LayerLayout where
  kind := kind
  maxSeqLen := 4096
  localCapacity := 128
  indexTopk := 512
  ring := by decide
  context := by decide

/--
An entry is the rope position it is made at, and its attention sees whether the entry
513 is there.  The query of position 2055 scores that entry above all others.
-/
def narrowLayer (kind : AttentionKind) : ModelLayer Nat Nat Nat where
  layout := narrowLayout kind
  arithmetic :=
    { compressor := ⟨fun _ score => score, fun rope _ => rope⟩
      indexer := ⟨fun _ score => score, fun rope _ => rope⟩
      score := fun query _ key => if query = 2055 ∧ key = 2052 then 2 else 1
      floor := 0
      finite := fun _ _ _ => by split <;> decide }
  stages :=
    { project := fun _ position _ => ⟨0, 0, ⟨0, 0⟩, position, 0, ⟨0, 0⟩⟩
      attendSliding := fun _ _ => 0
      attendCompressed := fun _ _ entries => if 2052 ∈ entries then 1 else 0
      finish := fun _ _ _ output => output }
  decodeBuffers _ := ⟨fun _ => 1, fun _ => 0⟩
  contents _ := ⟨fun _ => 0, fun _ => 0, fun _ => 0, fun _ => 1, fun _ => 0, fun _ => 16⟩

/-- What the projections leave of every position. -/
def narrowHistory (position : Nat) : ProjectedRow Nat :=
  ⟨0, 0, ⟨0, 0⟩, position, 0, ⟨0, 0⟩⟩

/-- A layer behind 2055 positions. -/
def narrowState (kind : AttentionKind) : LayerState Nat :=
  fedRows (narrowLayout kind) (narrowLayer kind).arithmetic (resetGenerationState 0) 0
    (historyRows narrowHistory 0 2055)

def narrowStack : LayerStack Nat Nat Nat :=
  [AttentionKind.hca, .csa].map fun kind => (narrowLayer kind, narrowState kind)

/-- The staging holds every expert of a layer, so any chunk is accepted. -/
def narrowHost : GraphHost Nat where
  vocabSize := 100
  numExpertsPerTok := 6
  nRoutedExperts := 256
  batchStagingCapacity := 256
  stageOfLayer _ := 0
  embedding _ := 0

/-- The workspace loaded for a chunk of 128. -/
def narrowWorkspaces : Workspaces := fun _ =>
  ((({} : Workspace).allocate [(narrowLayout .hca).capacities, (narrowLayout .csa).capacities]
    256 128 none none).1)

/-- A window of one row more. -/
def narrowTokens : List Nat := List.replicate 129 0

theorem narrow_reaches (kind : AttentionKind) :
    Reaches (narrowLayout kind) (narrowLayer kind).arithmetic 0 narrowHistory 2055
      (narrowState kind) := by
  have reached := @Reaches.chunk Nat Nat _ (narrowLayout kind)
    (narrowLayer kind).arithmetic 0 narrowHistory 0 2055 _ (narrowState kind) .reset
    (chunkState_inside (by rw [historyRows_length]; exact Nat.le_of_ble_eq_true rfl))
  rwa [Nat.zero_add] at reached

/-- An entry of the indexer stands for its own index. -/
theorem narrow_entry (index : Nat) :
    compressedEntry (narrowLayout .csa) (narrowLayer .csa).arithmetic.indexer
      (fun place => (narrowHistory place).indexerCompressor) index = 4 * index := by
  show ((index + 1) * 4 - 1) / 4 * 4 = 4 * index
  omega

theorem narrow_queryScores (query candidate : Nat) :
    queryScores (narrowLayout .csa) (narrowLayer .csa).arithmetic narrowHistory query
      candidate = if query = 2055 ∧ candidate = 513 then 2 else 1 := by
  unfold queryScores
  rw [narrow_entry]
  show (if query = 2055 ∧ 4 * candidate = 2052 then 2 else 1) = _
  exact if_congr (by omega) rfl rfl

/-! ## What the token 2055 attends -/

theorem narrow_rankedEntries
    {scores : Nat → Nat}
    (above : ∀ candidate < 514, 0 < scores candidate) :
    ∃ selection, BestSelection scores 514 512 selection ∧
      (2052 ∈ (narrowLayer .csa).rankedEntries narrowHistory scores 2055 ↔
        513 ∈ selection) := by
  obtain ⟨selection, best, entries⟩ := @ModelLayer.rankedEntries_selection Nat Nat Nat _
    (narrowLayer .csa) scores 2055 rfl above narrowHistory
  refine ⟨selection, best, ?_⟩
  rw [entries, List.mem_map]
  have entry : ∀ index, (narrowLayer .csa).causalEntry narrowHistory index = 4 * index :=
    narrow_entry
  constructor
  · rintro ⟨index, listed, same⟩
    rw [entry] at same
    rwa [show 513 = index by omega]
  · intro listed
    exact ⟨513, listed, entry 513⟩

theorem narrow_rankedOutput
    (scores : Nat → Nat)
    (token position residual : Nat) :
    (narrowLayer .csa).rankedOutput narrowHistory scores token position residual =
      if 2052 ∈ (narrowLayer .csa).rankedEntries narrowHistory scores position then 1
      else 0 :=
  rfl

/-- On its own scores the token attends the entry. -/
theorem narrow_causalOutput (token residual : Nat) :
    (narrowLayer .csa).causalOutput narrowHistory token 2055 residual = 1 := by
  obtain ⟨selection, best, attends⟩ := @narrow_rankedEntries
    (queryScores (narrowLayout .csa) (narrowLayer .csa).arithmetic narrowHistory 2055)
    fun candidate _ => (narrowLayer .csa).arithmetic.finite _ _ _
  have attended : 513 ∈ selection := by
    refine best.mem_of_highest (by decide) (by decide) fun other _ different => ?_
    rw [narrow_queryScores, narrow_queryScores, if_neg (by omega), if_pos (by omega)]
    decide
  rw [ModelLayer.causalOutput]
  exact (narrow_rankedOutput _ token 2055 residual).trans (if_pos (attends.mpr attended))

/-- On equal scores it does not. -/
theorem narrow_tiedOutput (token residual : Nat) :
    (narrowLayer .csa).rankedOutput narrowHistory (fun _ => 1) token 2055 residual = 0 := by
  obtain ⟨selection, best, attends⟩ := @narrow_rankedEntries (fun _ => 1)
    fun _ _ => Nat.one_pos
  rw [narrow_rankedOutput, if_neg]
  exact fun listed => best.last_not_mem (by decide) (fun _ _ => rfl) (attends.mp listed)

/-! ## The window -/

/-- The scratch of the window: sized for the first layer. -/
def narrowSizes : PrefillWorkspace.BatchScratch :=
  .full (narrowLayout .hca).capacities 129

/-- What a row of the window writes to a cell of the scores, if it does. -/
theorem narrow_cellScore
    {state : LayerState Nat}
    (keys : ∀ index < 546, state.indexerKeys index = 4 * index)
    {row : Nat}
    (inside : row < 129)
    (cell : Nat) :
    cellScore (narrowLayout .csa) (narrowLayer .csa).arithmetic
        { (narrowLayer .csa).contents 2055 with sizes := narrowSizes } state 2055
        (historyRows narrowHistory 2055 129) cell row =
      if row * 32 ≤ cell ∧ cell < row * 32 + (2055 + row + 1) / 4 then
        some (if row = 0 ∧ cell = 513 then 2 else 1)
      else
        none := by
  have committed : (narrowLayout .csa).committedEntriesFor (2055 + row) =
      (2055 + row + 1) / 4 :=
    committedEntriesFor_eq (show 2055 + row < 4096 by omega)
  unfold cellScore
  simp only [historyRows_getElem inside, committed]
  show (if row * 32 ≤ cell ∧ cell < row * 32 + _ then
    some (if 2055 + row = 2055 ∧ state.indexerKeys (cell - row * 32) = 2052 then 2 else 1)
    else none) = _
  by_cases reaches : row * 32 ≤ cell ∧ cell < row * 32 + (2055 + row + 1) / 4
  · rw [if_pos reaches, if_pos reaches, keys _ (by omega)]
    exact congrArg some (if_congr (by omega) rfl rfl)
  · rw [if_neg reaches, if_neg reaches]

/-- Whatever its neighbours leave in its row, the first token's entries are all alike. -/
theorem narrow_scores
    {state : LayerState Nat}
    (keys : ∀ index < 546, state.indexerKeys index = 4 * index)
    (cell : Nat) :
    chunkIndexerScores (narrowLayout .csa) (narrowLayer .csa).arithmetic
        { (narrowLayer .csa).contents 2055 with sizes := narrowSizes } state 2055
        (historyRows narrowHistory 2055 129) cell = 1 := by
  unfold chunkIndexerScores
  rw [historyRows_length]
  show (((16 : Nat) :: List.range 129).findSome? _).getD 1 = 1
  by_cases special : cell = 513
  · -- The row sixteen further on lands last on the cell.
    rw [List.findSome?_cons, narrow_cellScore keys (by decide), if_pos (by omega),
      if_neg (by omega)]
    rfl
  cases landed : ((16 : Nat) :: List.range 129).findSome? (cellScore (narrowLayout .csa)
      (narrowLayer .csa).arithmetic
      { (narrowLayer .csa).contents 2055 with sizes := narrowSizes } state 2055
      (historyRows narrowHistory 2055 129) cell) with
  | none => rfl
  | some value =>
    obtain ⟨row, listed, wrote⟩ := List.exists_of_findSome?_eq_some landed
    have inside : row < 129 := by
      rcases List.mem_cons.mp listed with rfl | later
      · decide
      · exact List.mem_range.mp later
    rw [narrow_cellScore keys inside, if_neg (c := row = 0 ∧ _) (by omega)] at wrote
    split at wrote
    · exact (Option.some.inj wrote).symm
    · cases wrote

/-- The chunk leaves the first token without the entry. -/
theorem narrow_chunkBody
    {inputs : List (Nat × Nat)}
    (length : inputs.length = 129) :
    ∃ next residuals, (narrowLayer .csa).chunkBody narrowSizes (narrowState .csa) 2055
        inputs = .ok (next, residuals) ∧ residuals[0]? = some 0 := by
  have held : Fed (narrowLayout .csa) (narrowLayer .csa).arithmetic narrowHistory 2055
      (narrowState .csa) := (narrow_reaches .csa).fed
  have keys : ∀ index < 546, (advancedRows (narrowLayout .csa)
      (narrowLayer .csa).arithmetic (narrowState .csa) 2055
      (historyRows narrowHistory 2055 129)).indexerKeys index = 4 * index := by
    intro index complete
    obtain ⟨-, -, entry⟩ := @Fed.advanced_entries _ _ _ _ _ _ _ _ held 129 (by decide)
      index (show (index + 1) * 4 ≤ 2055 + 129 by omega)
    exact (entry rfl).trans (narrow_entry index)
  have scores := narrow_scores keys
  have body := @ModelLayer.chunkBody_ranked Nat Nat Nat _ (narrowLayer .csa) narrowHistory
    (narrowState .csa) 2055 inputs narrowSizes held (fun _ _ _ _ => rfl)
    (by rw [length]; decide) (by rw [length]; decide) (by decide) (fun _ => rfl)
    (by rw [length]; decide) (fun _ _ => 1)
    (fun _ query _ candidate _ => by rw [length]; exact scores _)
  obtain ⟨⟨token, residual⟩, rest, rfl⟩ := List.exists_cons_of_length_eq_add_one length
  refine ⟨_, _, body, ?_⟩
  exact congrArg some (narrow_tiedOutput token residual)

/-- One chunk of a layer is its body. -/
theorem ModelLayer.runChunks_single
    {layer : ModelLayer Row Score Residual}
    {sizes : PrefillWorkspace.BatchScratch}
    {state next : LayerState Row}
    {chunk fuel start : Nat}
    {inputs : List (Nat × Residual)}
    {residuals : List Residual}
    (nonempty : inputs.length ≠ 0)
    (one : inputs.length ≤ chunk)
    (body : layer.chunkBody sizes state start inputs = .ok (next, residuals)) :
    layer.runChunks sizes chunk (fuel + 1) state start inputs = .ok (next, residuals) := by
  have span : min chunk inputs.length = inputs.length := Nat.min_eq_right one
  have rest : layer.runChunks sizes chunk fuel next (start + inputs.length) [] =
      .ok (next, []) := by
    cases fuel <;> rfl
  simp only [runChunks, if_neg nonempty, span, List.take_length, List.drop_length, body, rest,
    bind, Except.bind, List.append_nil]

/-- The window re-sizes the scratch for its first layer and leaves it to the second. -/
theorem narrow_ensured :
    (narrowHost.ensured (narrowLayout .hca) 0 129 narrowWorkspaces 0).batchScratch =
        narrowSizes ∧
      (narrowHost.ensured (narrowLayout .csa) 1 129
        (narrowHost.ensured (narrowLayout .hca) 0 129 narrowWorkspaces) 0).batchScratch =
        narrowSizes :=
  ⟨rfl, rfl⟩

/-- The window is accepted. -/
theorem narrow_accepts : narrowHost.Accepts narrowTokens 129 where
  nonempty := by decide
  positive := by decide
  few := by decide
  staging := by decide
  vocabulary := fun token listed => by
    rw [List.eq_of_mem_replicate listed]
    decide

/-- The window leaves the first token without the entry. -/
theorem narrow_forwardWindow :
    ∃ final after first second,
      narrowHost.forwardWindow narrowWorkspaces narrowStack narrowTokens 2055 129 =
        .ok (final, after, [first, second]) ∧ second[0]? = some 0 := by
  have length : narrowTokens.length = 129 := List.length_replicate
  obtain ⟨sizes, same⟩ := narrow_ensured
  have embedded :
      (narrowTokens.zip (narrowTokens.map narrowHost.embedding)).length = 129 := by
    rw [List.length_zip, List.length_map, length, Nat.min_self]
  have room : Room (narrowLayout .hca) narrowSizes 129 (2055 + 129 - 1) := by
    refine ⟨Nat.le_refl 129, by decide, fun csa => ?_, fun csa => ?_⟩ <;> cases csa
  obtain ⟨next, first, runs, rows, -, -⟩ := @ModelLayer.runChunks_runOn Nat Nat Nat _
    (narrowLayer .hca) (narrowState .hca) 129 129 2055
    (narrowTokens.zip (narrowTokens.map narrowHost.embedding))
    ⟨narrowHistory, (narrow_reaches .hca).fed⟩ (by decide) (by decide) narrowSizes
    (by rw [embedded]; exact room) (by rw [embedded])
    (by rw [embedded]; exact (by decide : 2055 + 129 ≤ 4096))
  have paired : (narrowTokens.zip first).length = 129 := by
    rw [List.length_zip, rows, embedded, length, Nat.min_self]
  obtain ⟨last, second, body, lost⟩ := narrow_chunkBody paired
  have chunk := @ModelLayer.runChunks_single _ _ _ _ _ _ _ _ 129 128 _ _ _ (by omega)
    (by omega) body
  refine ⟨[(narrowLayer .hca, next), (narrowLayer .csa, last)],
    narrowHost.ensured (narrowLayout .csa) 1 129
      (narrowHost.ensured (narrowLayout .hca) 0 129 narrowWorkspaces),
    first, second, ?_, lost⟩
  rw [narrow_accepts.forwardWindow_eq]
  have count : min 129 narrowTokens.length = 129 := by rw [length]; rfl
  rw [narrowStack, List.map_cons, List.map_cons, List.map_nil]
  refine GraphHost.windowLayers_cons (by omega) (by rw [count]; decide) ?_
    (GraphHost.windowLayers_cons (by omega) (by rw [count]; decide) ?_ ?_)
  · rw [count, length]
    exact sizes ▸ runs
  · rw [count, length]
    exact same ▸ chunk
  · rw [count]
    rfl

/-- On its own the first token leaves the second layer with the entry attended. -/
theorem narrow_forwardToken :
    ∃ next first, narrowHost.forwardToken narrowStack 0 2055 = .ok (next, [first, 1]) := by
  have body : ∀ kind residual, ∃ next,
      (narrowLayer kind).decodeBody (narrowState kind) 0 2055 residual =
        .ok (next, (narrowLayer kind).causalOutput narrowHistory 0 2055 residual) :=
    fun kind residual => ⟨_, ModelLayer.decodeBody_eq (narrow_reaches kind).fed rfl
      (by show 2055 < 4096; decide)⟩
  obtain ⟨hca, front⟩ := body .hca 0
  obtain ⟨csa, back⟩ := body .csa ((narrowLayer .hca).causalOutput narrowHistory 0 2055 0)
  rw [narrow_causalOutput] at back
  generalize (narrowLayer .hca).causalOutput narrowHistory 0 2055 0 = first at front back
  have embedded : narrowHost.embedToken 0 = .ok 0 := rfl
  refine ⟨[(narrowLayer .hca, hca), (narrowLayer .csa, csa)], first, ?_⟩
  rw [GraphHost.forwardToken, embedded, narrowStack, List.map_cons, List.map_cons,
    List.map_nil]
  simp only [bind, Except.bind, runLayers, front, back]

/--
Behind 2055 positions, a window of 129 tokens in one chunk on a workspace loaded for 128:
the first token leaves the second layer with a residual other than the one it leaves
with on its own.
-/
theorem forwardWindows_on_narrow_scratch :
    (∀ entry ∈ narrowStack, ∃ blank history,
      Reaches entry.1.layout entry.1.arithmetic blank history 2055 entry.2) ∧
    narrowHost.Accepts narrowTokens 129 ∧
    (∀ entry ∈ narrowStack, 2055 + narrowTokens.length ≤ entry.1.layout.maxSeqLen) ∧
    ¬ ∃ final after carries outputs,
      narrowHost.forwardWindows narrowWorkspaces narrowStack 2055 [(narrowTokens, 129)] =
          .ok (final, after, carries) ∧
        narrowHost.forwardTokens narrowStack 2055 narrowTokens = .ok (final, outputs) ∧
        ∀ level < 2, outputs.map (fun residuals => residuals[level]?) =
          (carries.flatMap fun window => window.getD level []).map some := by
  refine ⟨fun entry listed => ?_, narrow_accepts, fun entry listed => ?_, ?_⟩
  · obtain ⟨kind, -, rfl⟩ := List.mem_map.mp listed
    dsimp only
    exact ⟨0, narrowHistory, narrow_reaches kind⟩
  · obtain ⟨kind, -, rfl⟩ := List.mem_map.mp listed
    rw [narrowTokens, List.length_replicate]
    exact (by decide : (2055 + 129 : Nat) ≤ 4096)
  rintro ⟨final, after, carries, outputs, windows, serial, levels⟩
  obtain ⟨stack, between, first, second, window, lost⟩ := narrow_forwardWindow
  obtain ⟨next, residual, token⟩ := narrow_forwardToken
  -- The carries of the window, and the residuals of its first token.
  simp only [GraphHost.forwardWindows, window, bind, Except.bind] at windows
  obtain ⟨-, -, rfl⟩ : _ ∧ _ ∧ [[first, second]] = carries := by
    simpa only [Except.ok.injEq, Prod.mk.injEq] using windows
  rw [show narrowTokens = 0 :: List.replicate 128 0 from rfl, GraphHost.forwardTokens] at serial
  simp only [token, bind, Except.bind] at serial
  split at serial
  · cases serial
  obtain ⟨-, rfl⟩ := Prod.mk.inj (Except.ok.inj serial)
  have level := congrArg (fun column => column[0]?) (levels 1 (by decide))
  simp only [List.flatMap_cons, List.flatMap_nil, List.append_nil, List.map_cons,
    List.getElem?_map, List.getElem?_cons_zero, List.getD_cons_succ, List.getD_cons_zero,
    lost] at level
  cases Option.some.inj (Option.some.inj level)

end Aeon.Attention
