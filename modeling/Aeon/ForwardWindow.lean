import Aeon.LayerBodyRefinement

namespace Aeon.Attention

open List (length_cons length_map length_zip map_append map_cons)
open PrefillWorkspace (Fits Workspace maxTokens)

/-!
# The layer-major window

`V4Graph::forward_token` sends one token through every layer.  `forward_window` sends a
whole window through a layer, chunk by chunk, before it enters the next one.  On the
layers of one model, from the same states, the two leave the same residual of every
token behind every layer and the same state of every layer, as long as the scratch of
the batch, which the layers of a stage share, has room for each of them.
-/

variable {Row Score Residual : Type} [LinearOrder Score]

/-! ## A token -/

/-- The layers of the model in order, each with its state. -/
abbrev LayerStack (Row Score Residual : Type) [LinearOrder Score] : Type :=
  List (ModelLayer Row Score Residual × LayerState Row)

/-- The workspace of each stage. -/
abbrev Workspaces : Type := Nat → Workspace

/-- What the graph reads of its host besides the layers. -/
structure GraphHost (Residual : Type) where
  vocabSize : Nat
  numExpertsPerTok : Nat
  nRoutedExperts : Nat
  batchStagingCapacity : Nat
  stageOfLayer : Nat → Nat
  /-- A row of the embedding table, broadcast and widened. -/
  embedding : Nat → Residual

namespace GraphHost

variable (host : GraphHost Residual)

/-- `embed_token`. -/
def embedToken
    (token : Nat) : Except String Residual :=
  if host.vocabSize ≤ token then
    .error s!"V4Graph::embed_token: token id {token} is outside the vocabulary of {host.vocabSize}"
  else
    .ok (host.embedding token)

end GraphHost

/-- The layers for one token: the stack behind it and the residual behind each layer. -/
def runLayers
    (token position : Nat) :
    LayerStack Row Score Residual → Residual →
      Except String (LayerStack Row Score Residual × List Residual)
  | [], _ => .ok ([], [])
  | (layer, state) :: rest, residual => do
      let (next, after) ← layer.decodeBody state token position residual
      let (others, later) ← runLayers token position rest after
      .ok ((layer, next) :: others, after :: later)

namespace GraphHost

variable (host : GraphHost Residual)

/-- `forward_token` up to the head. -/
def forwardToken
    (stack : LayerStack Row Score Residual)
    (token position : Nat) :
    Except String (LayerStack Row Score Residual × List Residual) := do
  let residual ← host.embedToken token
  runLayers token position stack residual

/-- Tokens from a position on, one by one. -/
def forwardTokens :
    LayerStack Row Score Residual → Nat → List Nat →
      Except String (LayerStack Row Score Residual × List (List Residual))
  | stack, _, [] => .ok (stack, [])
  | stack, position, token :: rest => do
      let (next, residuals) ← host.forwardToken stack token position
      let (last, later) ← forwardTokens next (position + 1) rest
      .ok (last, residuals :: later)

/-! ## A window -/

/-- `embed_window`. -/
def embedWindow : List Nat → Except String (List Residual)
  | [] => .ok []
  | token :: rest => do
      if host.vocabSize ≤ token then
        .error s!"V4Graph::embed_window: token id {token} is outside the vocabulary of {host.vocabSize}"
      else
        let later ← embedWindow rest
        .ok (host.embedding token :: later)

/-- The workspaces behind `ensure_batch_scratch` at a layer, if every `hipMalloc` works. -/
def ensured
    (layout : LayerLayout)
    (layerId count : Nat)
    (workspaces : Workspaces) : Workspaces :=
  let stage := host.stageOfLayer layerId
  Function.update workspaces stage
    ((workspaces stage).ensureBatchScratch layout.capacities layerId count none).1

/-- `V4ModelHost::ensure_batch_scratch`. -/
def ensureBatchScratch
    (layout : LayerLayout)
    (layerId count : Nat)
    (workspaces : Workspaces) : Except String Workspaces := do
  ((workspaces (host.stageOfLayer layerId)).ensureBatchScratch layout.capacities layerId
    count none).2
  .ok (host.ensured layout layerId count workspaces)

/-- The staging slots the routed experts of a chunk take. -/
def stagingNeeded
    (chunk : Nat) : Nat :=
  min (host.numExpertsPerTok * chunk) host.nRoutedExperts

end GraphHost

namespace ModelLayer

variable (layer : ModelLayer Row Score Residual)

/-- The chunks of a window at one layer, from the carry and back into it. -/
def runChunks
    (sizes : PrefillWorkspace.BatchScratch)
    (chunk : Nat) :
    Nat → LayerState Row → Nat → List (Nat × Residual) →
      Except String (LayerState Row × List Residual)
  | 0, state, _, _ => .ok (state, [])
  | fuel + 1, state, start, inputs => do
      if inputs.length = 0 then
        .ok (state, [])
      else
        let span := min chunk inputs.length
        let (next, residuals) ← layer.chunkBody sizes state start (inputs.take span)
        let (last, later) ← runChunks sizes chunk fuel next (start + span) (inputs.drop span)
        .ok (last, residuals ++ later)

end ModelLayer

namespace GraphHost

variable (host : GraphHost Residual)

/-- Every chunk at one layer, then the next layer; the carry behind each of them. -/
def windowLayers
    (chunk start : Nat)
    (tokens : List Nat) :
    Nat → Workspaces → LayerStack Row Score Residual → List Residual →
      Except String (LayerStack Row Score Residual × Workspaces × List (List Residual))
  | _, workspaces, [], _ => .ok ([], workspaces, [])
  | layerId, workspaces, (layer, state) :: rest, carry => do
      let ready ← host.ensureBatchScratch layer.layout layerId (min chunk tokens.length)
        workspaces
      let scratch := (ready (host.stageOfLayer layerId)).batchScratch
      let (next, after) ←
        layer.runChunks scratch chunk tokens.length state start (tokens.zip carry)
      let (others, last, later) ←
        windowLayers chunk start tokens (layerId + 1) ready rest after
      .ok ((layer, next) :: others, last, after :: later)

/-- `forward_window` up to the head. -/
def forwardWindow
    (workspaces : Workspaces)
    (stack : LayerStack Row Score Residual)
    (tokens : List Nat)
    (start chunk : Nat) :
    Except String
      (LayerStack Row Score Residual × Workspaces × List (List Residual)) := do
  if tokens.length = 0 then
    .error "V4Graph::forward_window: an empty window"
  else if chunk = 0 ∨ maxTokens < chunk then
    .error s!"V4Graph::forward_window: the chunk must be in [1, {maxTokens}]"
  else if host.batchStagingCapacity < host.stagingNeeded chunk then
    .error s!"V4Graph::forward_window: the chunk needs {host.stagingNeeded chunk} staging slots but the chunked window's corridor holds {host.batchStagingCapacity} — raise AeonRuntimeConfig::prefill_chunk"
  else
    let carry ← host.embedWindow tokens
    host.windowLayers chunk start tokens 0 workspaces stack carry

/-- Consecutive windows, each with its chunk. -/
def forwardWindows :
    Workspaces → LayerStack Row Score Residual → Nat → List (List Nat × Nat) →
      Except String
        (LayerStack Row Score Residual × Workspaces × List (List (List Residual)))
  | workspaces, stack, _, [] => .ok (stack, workspaces, [])
  | workspaces, stack, start, (tokens, chunk) :: rest => do
      let (next, between, carries) ←
        host.forwardWindow workspaces stack tokens start chunk
      let (last, after, later) ←
        forwardWindows between next (start + tokens.length) rest
      .ok (last, after, carries :: later)

/-! ## The scratch of the windows -/

/-- The workspaces behind the layers of a window. -/
def workspacesAfter
    (count : Nat) : Nat → Workspaces → List LayerLayout → Workspaces
  | _, workspaces, [] => workspaces
  | layerId, workspaces, layout :: rest =>
    workspacesAfter count (layerId + 1) (host.ensured layout layerId count workspaces) rest

/-- Every layer of a window finds a scratch with room for its chunks. -/
def Roomy
    (count last : Nat) : Nat → Workspaces → List LayerLayout → Prop
  | _, _, [] => True
  | layerId, workspaces, layout :: rest =>
    let ready := host.ensured layout layerId count workspaces
    Room layout (ready (host.stageOfLayer layerId)).batchScratch count last ∧
      Roomy count last (layerId + 1) ready rest

/-- And so does every layer of consecutive windows. -/
def RoomyWindows
    (layouts : List LayerLayout) :
    Workspaces → Nat → List (List Nat × Nat) → Prop
  | _, _, [] => True
  | workspaces, start, (tokens, chunk) :: rest =>
    let count := min chunk tokens.length
    host.Roomy count (start + tokens.length - 1) 0 workspaces layouts ∧
      RoomyWindows layouts (host.workspacesAfter count 0 workspaces layouts)
        (start + tokens.length) rest

end GraphHost

namespace ModelLayer

/-! ## The chunks of a layer -/

theorem stream_append
    (start : Nat)
    (front back : List (Nat × Residual)) :
    stream start (front ++ back) =
      stream start front ++ stream (start + front.length) back := by
  induction front generalizing start with
  | nil => rfl
  | cons input rest ih =>
    rw [List.cons_append, stream, ih, length_cons]
    rw [show start + 1 + rest.length = start + (rest.length + 1) by omega]
    rfl

variable {layer : ModelLayer Row Score Residual} {state : LayerState Row}

theorem runChunks_runOn
    {chunk fuel start : Nat}
    {inputs : List (Nat × Residual)}
    (reached : layer.Reached start state)
    (positive : 0 < chunk)
    (few : chunk ≤ maxTokens)
    {sizes : PrefillWorkspace.BatchScratch}
    (room : Room layer.layout sizes (min chunk inputs.length) (start + inputs.length - 1))
    (enough : inputs.length ≤ fuel)
    (context : start + inputs.length ≤ layer.layout.maxSeqLen) :
    ∃ next residuals,
      layer.runChunks sizes chunk fuel state start inputs = .ok (next, residuals) ∧
        residuals.length = inputs.length ∧
        MachineStack.runOn decodeStep layer state (stream start inputs) =
          (next, stream start ((inputs.map Prod.fst).zip residuals)) ∧
        layer.Reached (start + inputs.length) next := by
  induction fuel generalizing state start inputs with
  | zero =>
    obtain rfl := List.length_eq_zero_iff.mp (Nat.le_zero.mp enough)
    exact ⟨state, [], rfl, rfl, rfl, reached⟩
  | succ fuel ih =>
    by_cases empty : inputs.length = 0
    · obtain rfl := List.length_eq_zero_iff.mp empty
      exact ⟨state, [], rfl, rfl, rfl, reached⟩
    have spanned : (inputs.take (min chunk inputs.length)).length =
        min chunk inputs.length := by
      rw [List.length_take]
      omega
    have remaining : (inputs.drop (min chunk inputs.length)).length =
        inputs.length - min chunk inputs.length := List.length_drop
    obtain ⟨middle, front, body, frontLength, frontRun, middleReached⟩ :=
      @chunkBody_runOn _ _ _ _ layer state start
        (inputs.take (min chunk inputs.length)) reached (by omega)
        sizes (room.mono (by omega) (by omega)) (by omega)
    rw [spanned] at middleReached frontLength
    obtain ⟨last, back, rest, backLength, backRun, lastReached⟩ :=
      @ih middle (start + min chunk inputs.length)
        (inputs.drop (min chunk inputs.length)) middleReached
        (room.mono (by omega) (by omega)) (by omega) (by omega)
    refine ⟨last, front ++ back, ?_, ?_, ?_, ?_⟩
    · rw [runChunks, if_neg empty]
      simp only [bind, Except.bind, body, rest]
    · rw [List.length_append, frontLength, backLength, remaining]
      omega
    · have split := List.take_append_drop (min chunk inputs.length) inputs
      have firstLength :
          ((inputs.take (min chunk inputs.length)).map Prod.fst).length = front.length := by
        rw [length_map, spanned, frontLength]
      conv_lhs => rw [← split, stream_append, spanned, MachineStack.runOn_append]
      rw [frontRun]
      simp only [backRun]
      conv_rhs => rw [← split, map_append, List.zip_append firstLength, stream_append]
      rw [length_zip, firstLength, frontLength, Nat.min_self]
    · rw [remaining] at lastReached
      rwa [show start + min chunk inputs.length +
        (inputs.length - min chunk inputs.length) = start + inputs.length by omega]
        at lastReached

end ModelLayer

/-! ## The two orders -/

open ModelLayer (TokenValue stream decodeStep)

/-- Every layer of the stack was fed the positions below `count`. -/
def StackReached
    (count : Nat)
    (stack : LayerStack Row Score Residual) : Prop :=
  ∀ entry ∈ stack, entry.1.Reached count entry.2

/-- Positions below `count` are within the context of every layer. -/
def StackContext
    (count : Nat)
    (stack : LayerStack Row Score Residual) : Prop :=
  ∀ entry ∈ stack, count ≤ entry.1.layout.maxSeqLen

/-- The layouts of the layers of a stack. -/
def stackLayouts
    (stack : LayerStack Row Score Residual) : List LayerLayout :=
  (stack.map Prod.fst).map ModelLayer.layout

namespace GraphHost

variable {host : GraphHost Residual}

/-- Where `hipMalloc` works, the scratch is ensured. -/
theorem ensureBatchScratch_eq
    {layout : LayerLayout}
    {layerId count : Nat}
    {workspaces : Workspaces}
    (some : 1 ≤ count)
    (few : count ≤ maxTokens) :
    host.ensureBatchScratch layout layerId count workspaces =
      .ok (host.ensured layout layerId count workspaces) := by
  have returned : ((workspaces (host.stageOfLayer layerId)).ensureBatchScratch
      layout.capacities layerId count none).2 = .ok () := by
    by_cases already : (workspaces (host.stageOfLayer layerId)).AlreadyFits layerId count
    · rw [Workspace.ensureBatchScratch, if_pos already]
    · rw [Workspace.ensureBatchScratch_of_allocates _ already ⟨some, few, by simp⟩]
  rw [ensureBatchScratch, returned]
  rfl

/-- A window takes one layer after the other. -/
theorem windowLayers_cons
    {chunk start layerId : Nat}
    {tokens : List Nat}
    {workspaces last : Workspaces}
    {layer : ModelLayer Row Score Residual}
    {state next : LayerState Row}
    {rest others : LayerStack Row Score Residual}
    {carry after : List Residual}
    {later : List (List Residual)}
    (some : 1 ≤ min chunk tokens.length)
    (few : min chunk tokens.length ≤ maxTokens)
    (runs : layer.runChunks
      (host.ensured layer.layout layerId (min chunk tokens.length) workspaces
        (host.stageOfLayer layerId)).batchScratch chunk tokens.length state start
      (tokens.zip carry) = .ok (next, after))
    (behind : host.windowLayers chunk start tokens (layerId + 1)
      (host.ensured layer.layout layerId (min chunk tokens.length) workspaces) rest after =
        .ok (others, last, later)) :
    host.windowLayers chunk start tokens layerId workspaces ((layer, state) :: rest) carry =
      .ok ((layer, next) :: others, last, after :: later) := by
  simp only [windowLayers, ensureBatchScratch_eq some few, runs, behind, bind, Except.bind]

/-- A window runs each layer over all its tokens. -/
theorem windowLayers_byMachine
    {chunk start layerId : Nat}
    {tokens : List Nat}
    {workspaces : Workspaces}
    {stack : LayerStack Row Score Residual}
    {carry : List Residual}
    (reached : StackReached start stack)
    (positive : 0 < chunk)
    (few : chunk ≤ maxTokens)
    (nonempty : tokens.length ≠ 0)
    (rows : carry.length = tokens.length)
    (context : StackContext (start + tokens.length) stack)
    (room : host.Roomy (min chunk tokens.length) (start + tokens.length - 1) layerId
      workspaces (stackLayouts stack)) :
    ∃ final carries, host.windowLayers chunk start tokens layerId workspaces stack carry =
        .ok (final, host.workspacesAfter (min chunk tokens.length) layerId workspaces
          (stackLayouts stack), carries) ∧
      MachineStack.byMachine decodeStep stack (stream start (tokens.zip carry)) =
        (final, carries.map fun after => stream start (tokens.zip after)) ∧
      (∀ after ∈ carries, after.length = tokens.length) ∧
      carries.length = stack.length ∧
      StackReached (start + tokens.length) final ∧
      final.map Prod.fst = stack.map Prod.fst := by
  induction stack generalizing carry layerId workspaces with
  | nil => exact ⟨[], [], rfl, rfl, by simp, rfl, by simp [StackReached], rfl⟩
  | cons entry rest ih =>
    obtain ⟨layer, state⟩ := entry
    obtain ⟨own, others⟩ := List.forall_mem_cons.mp reached
    obtain ⟨ownContext, otherContext⟩ := List.forall_mem_cons.mp context
    obtain ⟨ownRoom, otherRoom⟩ := room
    have paired : (tokens.zip carry).length = tokens.length := by
      rw [length_zip, rows, Nat.min_self]
    have names : (tokens.zip carry).map Prod.fst = tokens :=
      List.map_fst_zip (Nat.le_of_eq rows.symm)
    obtain ⟨next, after, runs, afterLength, run, nextReached⟩ :=
      @ModelLayer.runChunks_runOn _ _ _ _ layer state chunk tokens.length
        start (tokens.zip carry) own positive few _ (by rw [paired]; exact ownRoom)
        (Nat.le_of_eq paired) (by rw [paired]; exact ownContext)
    rw [paired] at afterLength nextReached
    rw [names] at run
    obtain ⟨final, carries, later, laterRun, lengths, count, finalReached, layers⟩ :=
      ih others afterLength otherContext otherRoom
    refine ⟨(layer, next) :: final, after :: carries, ?_, ?_, ?_, ?_, ?_, ?_⟩
    · exact windowLayers_cons (by omega) (by omega) runs later
    · rw [MachineStack.byMachine, run, laterRun, map_cons]
    · exact List.forall_mem_cons.mpr ⟨afterLength, lengths⟩
    · rw [length_cons, length_cons, count]
    · exact List.forall_mem_cons.mpr ⟨nextReached, finalReached⟩
    · rw [map_cons, map_cons, layers]

end GraphHost

/-- A token passes through all layers. -/
theorem runLayers_through
    {token position : Nat}
    {stack : LayerStack Row Score Residual}
    {residual : Residual}
    (reached : StackReached position stack)
    (context : StackContext (position + 1) stack) :
    ∃ final residuals,
      runLayers token position stack residual = .ok (final, residuals) ∧
        MachineStack.through decodeStep stack ⟨position, token, residual⟩ =
          (final, residuals.map (TokenValue.mk position token)) ∧
        StackReached (position + 1) final ∧
        final.map Prod.fst = stack.map Prod.fst := by
  induction stack generalizing residual with
  | nil => exact ⟨[], [], rfl, rfl, by simp [StackReached], rfl⟩
  | cons entry rest ih =>
    obtain ⟨layer, state⟩ := entry
    obtain ⟨own, others⟩ := List.forall_mem_cons.mp reached
    obtain ⟨ownContext, otherContext⟩ := List.forall_mem_cons.mp context
    obtain ⟨history, held, projects⟩ := own.extend [(token, residual)]
    have body := ModelLayer.decodeBody_eq held (projects 0 token residual rfl) ownContext
    obtain ⟨final, residuals, later, laterRun, finalReached, layers⟩ :=
      @ih (layer.causalOutput history token position residual) others
        otherContext
    refine ⟨(layer, fed layer.layout layer.arithmetic state (history position) position) ::
        final, layer.causalOutput history token position residual :: residuals,
      ?_, ?_, ?_, ?_⟩
    · simp only [runLayers, body, later, bind, Except.bind]
    · simp only [MachineStack.through, decodeStep, body, laterRun, map_cons]
    · exact List.forall_mem_cons.mpr ⟨⟨history, held.step⟩, finalReached⟩
    · rw [map_cons, map_cons, layers]

theorem StackContext.of_layers
    {count : Nat}
    {stack other : LayerStack Row Score Residual}
    (context : StackContext count stack)
    (layers : other.map Prod.fst = stack.map Prod.fst) :
    StackContext count other := by
  intro entry listed
  have shared : entry.1 ∈ stack.map Prod.fst :=
    layers ▸ List.mem_map_of_mem listed
  obtain ⟨own, ownListed, same⟩ := List.mem_map.mp shared
  rw [← same]
  exact context own ownListed

theorem StackContext.mono
    {less count : Nat}
    {stack : LayerStack Row Score Residual}
    (context : StackContext count stack)
    (below : less ≤ count) :
    StackContext less stack :=
  fun entry listed => Nat.le_trans below (context entry listed)

namespace GraphHost

variable {host : GraphHost Residual} {stack : LayerStack Row Score Residual}
  {workspaces : Workspaces}

/-- The embedded tokens of a window. -/
def embedded
    (host : GraphHost Residual)
    (tokens : List Nat) : List (Nat × Residual) :=
  tokens.zip (tokens.map host.embedding)

variable {tokens : List Nat}

theorem embedWindow_eq
    (vocabulary : ∀ token ∈ tokens, token < host.vocabSize) :
    host.embedWindow tokens = .ok (tokens.map host.embedding) := by
  induction tokens with
  | nil => rfl
  | cons token rest ih =>
    obtain ⟨own, others⟩ := List.forall_mem_cons.mp vocabulary
    rw [embedWindow, if_neg (Nat.not_le.mpr own), ih others]
    rfl

/-- Tokens one by one, each through all layers. -/
theorem forwardTokens_byValue
    {position : Nat}
    (reached : StackReached position stack)
    (vocabulary : ∀ token ∈ tokens, token < host.vocabSize)
    (context : StackContext (position + tokens.length) stack) :
    ∃ final outputs, host.forwardTokens stack position tokens = .ok (final, outputs) ∧
      (MachineStack.byValue decodeStep stack
        (stream position (host.embedded tokens))).1 = final ∧
      (MachineStack.byValue decodeStep stack
        (stream position (host.embedded tokens))).2.map (List.map TokenValue.residual) =
          outputs := by
  induction tokens generalizing stack position with
  | nil => exact ⟨stack, [], rfl, rfl, rfl⟩
  | cons token rest ih =>
    obtain ⟨own, others⟩ := List.forall_mem_cons.mp vocabulary
    rw [length_cons] at context
    obtain ⟨next, residuals, layers, run, nextReached, same⟩ :=
      @runLayers_through _ _ _ _ token position stack (host.embedding token) reached
        (context.mono (by omega))
    obtain ⟨final, outputs, later, states, values⟩ :=
      ih nextReached others
        ((context.of_layers same).mono (by omega))
    refine ⟨final, residuals :: outputs, ?_, ?_, ?_⟩
    · simp only [forwardTokens, forwardToken, embedToken, if_neg (Nat.not_le.mpr own),
        bind, Except.bind, layers, later]
    · rw [← states]
      simp only [embedded, map_cons, List.zip_cons_cons, stream,
        MachineStack.byValue, run]
    · rw [← values]
      simp only [embedded, map_cons, List.zip_cons_cons, stream,
        MachineStack.byValue, run, List.map_map]
      exact congrArg₂ List.cons (List.map_id _) rfl

theorem stream_residuals
    (start : Nat)
    (inputs : List (Nat × Residual)) :
    (stream start inputs).map TokenValue.residual = inputs.map Prod.snd := by
  induction inputs generalizing start with
  | nil => rfl
  | cons input rest ih =>
    rw [stream, map_cons, map_cons, ih]

/-- What `forward_window` accepts of a window and its chunk. -/
structure Accepts
    (host : GraphHost Residual)
    (tokens : List Nat)
    (chunk : Nat) : Prop where
  nonempty : tokens ≠ []
  positive : 1 ≤ chunk
  few : chunk ≤ maxTokens
  staging : host.stagingNeeded chunk ≤ host.batchStagingCapacity
  vocabulary : ∀ token ∈ tokens, token < host.vocabSize

theorem Accepts.forwardWindow_eq
    {chunk : Nat}
    (accepts : host.Accepts tokens chunk)
    (start : Nat) :
    host.forwardWindow workspaces stack tokens start chunk =
      host.windowLayers chunk start tokens 0 workspaces stack
        (tokens.map host.embedding) := by
  have nonempty : tokens.length ≠ 0 := fun none =>
    accepts.nonempty (List.length_eq_zero_iff.mp none)
  have positive := accepts.positive
  have few := accepts.few
  rw [forwardWindow, if_neg nonempty, if_neg (by omega),
    if_neg (Nat.not_lt.mpr accepts.staging), embedWindow_eq accepts.vocabulary]
  rfl

/-- One window agrees with its tokens. -/
theorem forwardWindow_forwardTokens
    {start chunk : Nat}
    (accepts : host.Accepts tokens chunk)
    (reached : StackReached start stack)
    (context : StackContext (start + tokens.length) stack)
    (room : host.Roomy (min chunk tokens.length) (start + tokens.length - 1) 0 workspaces
      (stackLayouts stack)) :
    ∃ final carries outputs,
      host.forwardWindow workspaces stack tokens start chunk =
          .ok (final, host.workspacesAfter (min chunk tokens.length) 0 workspaces
            (stackLayouts stack), carries) ∧
        host.forwardTokens stack start tokens = .ok (final, outputs) ∧
        (∀ level < stack.length, outputs.map (fun residuals => residuals[level]?) =
          (carries.getD level []).map some) ∧
        StackReached (start + tokens.length) final ∧
        final.map Prod.fst = stack.map Prod.fst := by
  obtain ⟨final, carries, runs, machines, lengths, count, finalReached, layers⟩ :=
    @windowLayers_byMachine _ _ _ _ host chunk start 0 tokens workspaces stack
      (tokens.map host.embedding) reached accepts.positive accepts.few
      (fun none => accepts.nonempty (List.length_eq_zero_iff.mp none)) (length_map _)
      context room
  obtain ⟨last, outputs, serial, states, values⟩ :=
    forwardTokens_byValue reached accepts.vocabulary context
  have sameStates := @MachineStack.byMachine_states _ _ _ decodeStep stack
    (stream start (host.embedded tokens))
  have sameValues := @MachineStack.byMachine_values _ _ _ decodeStep stack
    (stream start (host.embedded tokens))
  have serialLength := @MachineStack.byValue_length _ _ _ decodeStep stack
    (stream start (host.embedded tokens))
  have machine := machines
  rw [← embedded] at machine
  rw [machine] at sameStates sameValues
  have streamLength : (stream start (host.embedded tokens)).length = tokens.length := by
    have residuals := congrArg List.length (stream_residuals start (host.embedded tokens))
    rwa [length_map, length_map, embedded, length_zip, length_map,
      Nat.min_self] at residuals
  refine ⟨final, carries, outputs, ?_, ?_, ?_, finalReached, layers⟩
  · rw [accepts.forwardWindow_eq, runs]
  · rw [serial, ← states, ← sameStates]
  intro level inside
  have listed : level < carries.length := count ▸ inside
  have rows := lengths _ (List.getElem_mem listed)
  rw [← values, List.getD_eq_getElem?_getD, List.getElem?_eq_getElem listed,
    Option.getD_some]
  refine List.ext_getElem? fun index => ?_
  -- The value of a token at a level, taken from the carry of the level.
  have cell := congrArg (Option.map TokenValue.residual) (sameValues level index)
  rw [List.getElem?_map, List.getElem?_eq_getElem listed, Option.map_some,
    Option.bind_some, ← List.getElem?_map, stream_residuals,
    List.map_snd_zip (Nat.le_of_eq rows)] at cell
  rw [List.getElem?_map, List.getElem?_map, List.getElem?_map, cell]
  generalize (MachineStack.byValue decodeStep stack
    (stream start (host.embedded tokens))).2 = outer at *
  rcases Nat.lt_or_ge index tokens.length with below | above
  · have known : index < outer.length := by omega
    rw [List.getElem?_eq_getElem known] at cell ⊢
    rw [Option.bind_some, List.getElem?_eq_getElem (rows ▸ below)] at cell
    simp only [Option.map_some, Option.bind_some, List.getElem?_map, ← cell]
  · rw [List.getElem?_eq_none (by omega)]
    rfl

theorem forwardTokens_append
    {start : Nat}
    {front back : List Nat}
    {middle final : LayerStack Row Score Residual}
    {frontOutputs backOutputs : List (List Residual)}
    (first : host.forwardTokens stack start front = .ok (middle, frontOutputs))
    (second : host.forwardTokens middle (start + front.length) back =
      .ok (final, backOutputs)) :
    host.forwardTokens stack start (front ++ back) =
      .ok (final, frontOutputs ++ backOutputs) := by
  induction front generalizing stack start frontOutputs with
  | nil =>
    obtain ⟨rfl, rfl⟩ := Prod.mk.inj (Except.ok.inj first)
    exact second
  | cons token rest ih =>
    rw [forwardTokens] at first
    rw [List.cons_append, forwardTokens]
    simp only [bind, Except.bind] at first ⊢
    cases moved : host.forwardToken stack token start with
    | error message =>
      rw [moved] at first
      exact nomatch first
    | ok result =>
      obtain ⟨next, residuals⟩ := result
      rw [moved] at first
      simp only at first ⊢
      cases later : host.forwardTokens next (start + 1) rest with
      | error message =>
        rw [later] at first
        exact nomatch first
      | ok result =>
        obtain ⟨last, outputs⟩ := result
        rw [later] at first
        obtain ⟨rfl, rfl⟩ := Prod.mk.inj (Except.ok.inj first)
        rw [length_cons, show start + (rest.length + 1) =
          start + 1 + rest.length by omega] at second
        rw [ih later second]
        rfl

/-- Consecutive windows agree with all the tokens. -/
theorem forwardWindows_of_reached
    {start : Nat}
    {windows : List (List Nat × Nat)}
    (accepts : ∀ window ∈ windows, host.Accepts window.1 window.2)
    (reached : StackReached start stack)
    (context : StackContext (start + (windows.flatMap Prod.fst).length) stack)
    (room : host.RoomyWindows (stackLayouts stack) workspaces start windows) :
    ∃ final after carries outputs,
      host.forwardWindows workspaces stack start windows = .ok (final, after, carries) ∧
        host.forwardTokens stack start (windows.flatMap Prod.fst) = .ok (final, outputs) ∧
        ∀ level < stack.length, outputs.map (fun residuals => residuals[level]?) =
          (carries.flatMap fun window => window.getD level []).map some := by
  induction windows generalizing stack start workspaces with
  | nil => exact ⟨stack, workspaces, [], [], rfl, rfl, fun _ _ => rfl⟩
  | cons window rest ih =>
    obtain ⟨tokens, chunk⟩ := window
    obtain ⟨own, others⟩ := List.forall_mem_cons.mp accepts
    rw [List.flatMap_cons, List.length_append] at context
    obtain ⟨middle, carry, outputs, window, serial, levels, middleReached, layers⟩ :=
      forwardWindow_forwardTokens own reached (context.mono (by omega)) room.1
    have layouts : stackLayouts middle = stackLayouts stack :=
      congrArg (List.map ModelLayer.layout) layers
    obtain ⟨final, after, carries, later, windows, laterSerial, laterLevels⟩ :=
      @ih middle _ _ others middleReached ((context.of_layers layers).mono (by omega))
        (by rw [layouts]; exact room.2)
    have height := congrArg List.length layers
    rw [length_map, length_map] at height
    refine ⟨final, after, carry :: carries, outputs ++ later, ?_, ?_,
      fun level inside => ?_⟩
    · simp only [forwardWindows, window, windows, bind, Except.bind]
    · rw [List.flatMap_cons]
      exact forwardTokens_append serial laterSerial
    · rw [map_append, List.flatMap_cons, map_append, levels level inside,
        laterLevels level (height ▸ inside)]

/-- Workspaces loaded for the layers stay as they are, and serve every window. -/
theorem roomyWindows_of_fits
    {layouts : List LayerLayout}
    {chunkTokens : Nat}
    (loaded : ∀ layerId layout, layouts[layerId]? = some layout →
      (workspaces (host.stageOfLayer layerId)).prefillWorkspaceReady = true ∧
        Fits (workspaces (host.stageOfLayer layerId)).batchScratch layout.capacities
          chunkTokens)
    (start : Nat)
    {windows : List (List Nat × Nat)}
    (small : ∀ window ∈ windows, min window.2 window.1.length ≤ chunkTokens) :
    host.RoomyWindows layouts workspaces start windows := by
  have layer : ∀ count ≤ chunkTokens, ∀ last layerId rest,
      layouts.drop layerId = rest → host.Roomy count last layerId workspaces rest ∧
        host.workspacesAfter count layerId workspaces rest = workspaces := by
    intro count few last layerId rest behind
    induction rest generalizing layerId with
    | nil => exact ⟨trivial, rfl⟩
    | cons layout rest ih =>
      have known : layouts[layerId]? = some layout := by
        rw [← Nat.add_zero layerId, ← List.getElem?_drop, behind]
        rfl
      obtain ⟨ready, fits⟩ := loaded layerId layout known
      have same : host.ensured layout layerId count workspaces = workspaces := by
        rw [ensured, Workspace.ensureBatchScratch,
          if_pos (.inl ⟨ready, Nat.le_trans few fits.tokens⟩)]
        exact Function.update_eq_self _ workspaces
      have next := ih (layerId + 1) (by
        rw [← List.drop_drop, behind, List.drop_succ_cons, List.drop_zero])
      rw [Roomy, workspacesAfter, same]
      exact ⟨⟨(Room.of_fits fits last).mono few (Nat.le_refl last), next.1⟩, next.2⟩
  induction windows generalizing start with
  | nil => trivial
  | cons window rest ih =>
    obtain ⟨own, others⟩ := List.forall_mem_cons.mp small
    obtain ⟨roomy, same⟩ := layer _ own (start + window.1.length - 1) 0 layouts rfl
    refine ⟨roomy, ?_⟩
    rw [same]
    exact ih _ others

/--
From a stack whose layers were fed the positions below `start`, the windows and the
tokens one by one end in the same states, and behind every layer the carries of the
windows are the residuals of the tokens, if the scratch every layer of every window
finds has room for it.
-/
theorem forwardWindows_computes_forwardTokens
    (host : GraphHost Residual)
    (workspaces : Workspaces)
    (stack : LayerStack Row Score Residual)
    (start : Nat)
    (windows : List (List Nat × Nat))
    (reached : ∀ entry ∈ stack, ∃ zero history,
      Reaches entry.1.layout entry.1.arithmetic zero history start entry.2)
    (accepts : ∀ window ∈ windows, host.Accepts window.1 window.2)
    (context : ∀ entry ∈ stack,
      start + (windows.flatMap Prod.fst).length ≤ entry.1.layout.maxSeqLen)
    (room : host.RoomyWindows (stackLayouts stack) workspaces start windows) :
    ∃ final after carries outputs,
      host.forwardWindows workspaces stack start windows = .ok (final, after, carries) ∧
        host.forwardTokens stack start (windows.flatMap Prod.fst) = .ok (final, outputs) ∧
        ∀ level < stack.length, outputs.map (fun residuals => residuals[level]?) =
          (carries.flatMap fun window => window.getD level []).map some := by
  refine forwardWindows_of_reached accepts (fun entry listed => ?_) context room
  obtain ⟨zero, history, held⟩ := reached entry listed
  exact ⟨history, held.fed⟩

end GraphHost

/-- A layer of each kind, on numbers. -/
def sampleLayer (kind : AttentionKind) : ModelLayer Nat Nat Nat where
  layout := { sampleLayout with kind := kind }
  arithmetic := sampleArithmetic
  stages :=
    { project := fun token position residual =>
        ⟨residual, token + position, ⟨residual, position⟩, token, position,
          ⟨position, residual⟩⟩
      attendSliding := fun query rows => query + rows.sum
      attendCompressed := fun query rows entries => query + rows.sum + 2 * entries.sum
      finish := fun token position residual output => token + position + residual + output }
  decodeBuffers _ := ⟨fun _ => 9, fun _ => 1⟩
  contents _ := sampleContents

/-- A stack of all kinds, each layer behind seven positions. -/
def sampleStack : LayerStack Nat Nat Nat :=
  [AttentionKind.sliding, .csa, .hca].map fun kind =>
    (sampleLayer kind, fedRows (sampleLayer kind).layout sampleArithmetic
      (resetGenerationState 0) 0 (historyRows sampleHistory 0 7))

def sampleHost : GraphHost Nat where
  vocabSize := 100
  numExpertsPerTok := 6
  nRoutedExperts := 256
  batchStagingCapacity := 96
  stageOfLayer layerId := layerId / 2
  embedding token := 3 * token

/-- Workspaces loaded for sixteen rows of any layer of the stack. -/
def sampleWorkspaces : Workspaces := fun _ =>
  ((({} : Workspace).allocate ((stackLayouts sampleStack).map LayerLayout.capacities) 16 16
    none none).1)

/-- Two windows on two stages, with chunks that do not divide them. -/
theorem sampleStack_windows :
    ∃ final after carries outputs,
      sampleHost.forwardWindows sampleWorkspaces sampleStack 7
          [([4, 9, 2, 7, 1], 2), ([8, 8, 3], 16)] = .ok (final, after, carries) ∧
        sampleHost.forwardTokens sampleStack 7 [4, 9, 2, 7, 1, 8, 8, 3] =
          .ok (final, outputs) ∧
        ∀ level < 3, outputs.map (fun residuals => residuals[level]?) =
          (carries.flatMap fun window => window.getD level []).map some := by
  refine sampleHost.forwardWindows_computes_forwardTokens sampleWorkspaces sampleStack 7
    [([4, 9, 2, 7, 1], 2), ([8, 8, 3], 16)] (fun entry listed => ?_) (fun window listed => ?_)
    (fun entry listed => ?_) ?_
  · obtain ⟨kind, -, rfl⟩ := List.mem_map.mp listed
    exact ⟨0, sampleHistory, @Reaches.chunk _ _ _ _ _ _ _ 0 7 _ _ .reset
      (chunkState_inside (by decide : 0 + (historyRows sampleHistory 0 7).length ≤ 64))⟩
  · simp only [List.mem_cons, List.not_mem_nil, or_false] at listed
    rcases listed with rfl | rfl
    · exact ⟨by decide, by decide, by decide, by decide, by decide⟩
    · exact ⟨by decide, by decide, by decide, by decide, by decide⟩
  · obtain ⟨kind, -, rfl⟩ := List.mem_map.mp listed
    exact (by decide : (15 : Nat) ≤ 64)
  · refine GraphHost.roomyWindows_of_fits (fun layerId layout known => ⟨rfl, ?_⟩) 7
      (by decide : ∀ window ∈ [([4, 9, 2, 7, 1], 2), ([8, 8, 3], 16)], _ ≤ 16)
    have listed := List.mem_of_getElem? known
    simp only [stackLayouts, sampleStack, List.map_cons, List.map_nil, List.mem_cons,
      List.not_mem_nil, or_false] at listed
    show Fits (sampleWorkspaces 0).batchScratch layout.capacities 16
    rcases listed with rfl | rfl | rfl
    · exact ⟨rfl, by decide, by decide, rfl, by decide⟩
    · exact ⟨rfl, by decide, by decide, rfl, by decide⟩
    · exact ⟨rfl, by decide, by decide, rfl, by decide⟩

end Aeon.Attention
