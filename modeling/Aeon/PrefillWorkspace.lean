import Mathlib.Data.List.Basic
import Mathlib.Algebra.GroupWithZero.Nat

namespace Aeon.PrefillWorkspace

/-!
# The prefill workspace

`V4PrefillWorkspace` and the `V4LayerBodyBatchScratch` it owns: the scratch is
allocated at load for the worst case over the layers, or on demand for a layer and a
number of tokens.  An allocation may fail at any buffer, and what was allocated before
it stays.
-/

/-- The capacities of a layer's `V4LayerStateLayout` that the scratch reads. -/
structure LayerCapacities where
  compressedCapacity : Nat
  indexTopk : Nat
  localCapacity : Nat
  deriving Repr, DecidableEq

/-- `kMaxTokens`. -/
def maxTokens : Nat := 256

/-- `V4LayerBodyBatchScratch`; a buffer is the elements it holds and their size. -/
structure BatchScratch where
  buffers : List (Nat × Nat) := []
  tokenCount : Nat := 0
  indexScoresPerToken : Nat := 0
  indexTopkPerToken : Nat := 0
  maxComposedRows : Nat := 0
  deriving Repr, DecidableEq

namespace BatchScratch

/-- The buffers `allocate_capacity` allocates, in its order. -/
def layout (rows indexScores indexTopk composedRows : Nat) : List (Nat × Nat) :=
  [ -- the residuals
    (rows * 16384, 4), (rows * 16384, 4), (rows * 16384, 2), (rows * 16384, 2),
    (rows * 16384, 2),
    -- the mixes of the attention and of the feed-forward half
    (rows * 24, 4), (rows * 4, 4), (rows * 4, 4), (rows * 16, 4),
    (rows * 24, 4), (rows * 4, 4), (rows * 4, 4), (rows * 16, 4),
    -- the projections and the compressor
    (rows * 4096, 2), (rows * 4096, 2), (rows * 1024, 2), (rows * 1024, 2),
    (rows * 32768, 2), (rows * 512, 2), (rows * 512, 2), (rows * 1024, 2),
    (rows * 1024, 2),
    -- the indexer
    (rows * 8192, 2), (rows * 64, 2), (rows * 64, 4), (rows * 256, 2), (rows * 256, 2),
    (rows * indexScores, 4), (rows * indexTopk, 4),
    -- the attention output
    (rows * 32768, 2), (rows * 8192, 2), (rows * 4096, 2),
    -- the feed-forward half and its router
    (rows * 4096, 2), (rows * 16 * 4096, 2),
    (rows * 256, 2), (rows * 256, 4), (rows * 6, 4), (rows * 6, 4), (rows, 4),
    (rows * 2048, 2), (rows * 2048, 2), (rows * 2048, 2), (rows * 16 * 4096, 2),
    -- the chunk's keys and the composed rows
    (rows * 512, 2), (rows, 8), (composedRows * 512, 2), (composedRows, 8) ]

/-- What `allocate_capacity` has to allocate once its strides are recorded. -/
def wanted (scratch : BatchScratch) : List (Nat × Nat) :=
  layout scratch.tokenCount scratch.indexScoresPerToken scratch.indexTopkPerToken
    scratch.maxComposedRows

/-- `bytes()`. -/
def bytes (scratch : BatchScratch) : Nat :=
  (scratch.buffers.map fun buffer => buffer.1 * buffer.2).sum

/-- `free()`, which leaves the strides. -/
def free (scratch : BatchScratch) : BatchScratch :=
  { scratch with buffers := [], tokenCount := 0 }

/-- The `hipMalloc` that fails, and its error. -/
structure Failure where
  buffer : Nat
  errorString : String
  deriving Repr, DecidableEq

/-- `allocate_capacity`. -/
def allocateCapacity
    (scratch : BatchScratch)
    (capacities : LayerCapacities)
    (count : Nat)
    (failure : Option Failure) : BatchScratch × Except String Unit :=
  if count = 0 ∨ maxTokens < count then
    (scratch.free,
      .error "V4LayerBodyBatchScratch::allocate: unsupported token count")
  else
    let recorded : BatchScratch :=
      { buffers := []
        tokenCount := count
        indexScoresPerToken := capacities.compressedCapacity
        indexTopkPerToken := capacities.indexTopk
        maxComposedRows := capacities.localCapacity + maxTokens }
    match failure with
    | some failure =>
      if failure.buffer < recorded.wanted.length then
        ({ recorded with buffers := recorded.wanted.take failure.buffer },
          .error
            ("V4LayerBodyBatchScratch: hipMalloc failed: " ++ failure.errorString))
      else
        ({ recorded with buffers := recorded.wanted }, .ok ())
    | none => ({ recorded with buffers := recorded.wanted }, .ok ())

end BatchScratch

/-- `V4PrefillWorkspace`; the carry is the tokens it holds. -/
structure Workspace where
  batchScratch : BatchScratch := {}
  batchScratchLayer : Nat := 2 ^ 32 - 1
  batchScratchCount : Nat := 0
  carryTokens : Nat := 0
  prefillWindowTokens : Nat := 0
  prefillChunkTokens : Nat := 0
  prefillWorkspaceReady : Bool := false
  deriving Repr, DecidableEq

/-- `batch_scratch_allowance_bytes`. -/
def batchScratchAllowanceBytes (chunkTokens : Nat) : Nat :=
  chunkTokens * (1024 * 1024)

/-- The refusal of a scratch over its allowance. -/
def overAllowance (bytes chunkTokens : Nat) : String :=
  "V4PrefillWorkspace: the prefill batch scratch is " ++
    toString (bytes / (1024 * 1024)) ++ " MiB but the budget allows " ++
    toString (batchScratchAllowanceBytes chunkTokens / (1024 * 1024)) ++
    " MiB for chunk " ++ toString chunkTokens ++
    " — raise BATCH_SCRATCH_BYTES_PER_ROW or lower prefill_chunk"

/-- The larger capacities of two. -/
def LayerCapacities.sup (worst layer : LayerCapacities) : LayerCapacities where
  compressedCapacity := max worst.compressedCapacity layer.compressedCapacity
  indexTopk := max worst.indexTopk layer.indexTopk
  localCapacity := max worst.localCapacity layer.localCapacity

/-- The largest capacities over the layers. -/
def worstCase (layers : List LayerCapacities) : LayerCapacities :=
  layers.foldl LayerCapacities.sup ⟨0, 0, 0⟩

namespace Workspace

variable (workspace : Workspace)

/-- The two early returns of `ensure_batch_scratch`. -/
def AlreadyFits (layerId count : Nat) : Prop :=
  workspace.prefillWorkspaceReady = true ∧ count ≤ workspace.batchScratch.tokenCount ∨
    workspace.batchScratchCount = count ∧ workspace.batchScratchLayer = layerId

instance (layerId count : Nat) : Decidable (workspace.AlreadyFits layerId count) :=
  inferInstanceAs (Decidable (_ ∨ _))

/-- `ensure_batch_scratch`. -/
def ensureBatchScratch
    (layer : LayerCapacities)
    (layerId count : Nat)
    (failure : Option BatchScratch.Failure) : Workspace × Except String Unit :=
  if workspace.AlreadyFits layerId count then
    (workspace, .ok ())
  else
    match workspace.batchScratch.allocateCapacity layer count failure with
    | (scratch, .error message) =>
      ({ workspace with batchScratch := scratch }, .error message)
    | (scratch, .ok ()) =>
      ({ workspace with
          batchScratch := scratch
          batchScratchLayer := layerId
          batchScratchCount := count }, .ok ())

/-- `PrefillCarry::ensure`; the error is the one its allocation fails with. -/
def ensurePrefillCarry
    (tokens : Nat)
    (failure : Option String) : Workspace × Except String Unit :=
  if tokens = 0 then
    (workspace, .error "PrefillCarry: a prefill carry cannot be zero tokens")
  else if tokens ≤ workspace.carryTokens then
    (workspace, .ok ())
  else
    match failure with
    | some message => ({ workspace with carryTokens := 0 }, .error message)
    | none => ({ workspace with carryTokens := tokens }, .ok ())

/-- `allocate`. -/
def allocate
    (layers : List LayerCapacities)
    (windowTokens chunkTokens : Nat)
    (carryFailure : Option String)
    (failure : Option BatchScratch.Failure) : Workspace × Except String Unit :=
  if windowTokens = 0 ∨ chunkTokens = 0 then
    (workspace,
      .error "V4PrefillWorkspace: the prefill window and chunk must be positive")
  else if maxTokens < chunkTokens then
    (workspace,
      .error ("V4PrefillWorkspace: prefill chunk " ++ toString chunkTokens ++
        " exceeds the body's row cap of " ++ toString maxTokens))
  else
    match workspace.ensurePrefillCarry windowTokens carryFailure with
    | (carried, .error message) => (carried, .error message)
    | (carried, .ok ()) =>
      match carried.batchScratch.allocateCapacity (worstCase layers) chunkTokens
        failure with
      | (scratch, .error message) =>
        ({ carried with batchScratch := scratch }, .error message)
      | (scratch, .ok ()) =>
        if batchScratchAllowanceBytes chunkTokens < scratch.bytes then
          ({ carried with batchScratch := scratch },
            .error (overAllowance scratch.bytes chunkTokens))
        else
          ({ carried with
              batchScratch := scratch
              prefillWindowTokens := windowTokens
              prefillChunkTokens := chunkTokens
              prefillWorkspaceReady := true }, .ok ())

/-- `free`. -/
def free : Workspace :=
  { batchScratch := workspace.batchScratch.free }

end Workspace

/-! ## Runs -/

/-- The calls on a workspace. -/
inductive Call where
  | allocate
      (windowTokens chunkTokens : Nat)
      (carryFailure : Option String)
      (failure : Option BatchScratch.Failure)
  | ensureBatchScratch
      (layerId count : Nat)
      (failure : Option BatchScratch.Failure)
  | free
  deriving Repr, DecidableEq

/-- The last allocation of the scratch that was begun. -/
inductive Attempt where
  | failed
  | worstCase (chunkTokens : Nat)
  | forLayer (layerId count : Nat)
  deriving Repr, DecidableEq

/-- The buffers of a scratch. -/
def bufferCount : Nat := 47

/-- An allocation for a number of tokens goes through. -/
def Allocates
    (count : Nat)
    (failure : Option BatchScratch.Failure) : Prop :=
  1 ≤ count ∧ count ≤ maxTokens ∧ ∀ reason ∈ failure, bufferCount ≤ reason.buffer

instance
    (count : Nat)
    (failure : Option BatchScratch.Failure) :
    Decidable (Allocates count failure) :=
  inferInstanceAs (Decidable (_ ∧ _))

namespace Workspace

variable (workspace : Workspace) (layers : List LayerCapacities)

/-- One call; a layer the stage does not have is no call. -/
def step : Call → Workspace
  | .allocate windowTokens chunkTokens carryFailure failure =>
    (workspace.allocate layers windowTokens chunkTokens carryFailure failure).1
  | .ensureBatchScratch layerId count failure =>
    match layers[layerId]? with
    | some layer => (workspace.ensureBatchScratch layer layerId count failure).1
    | none => workspace
  | .free => workspace.free

/-- The allocation a call begins, `none` if it begins none. -/
def begun : Call → Option Attempt
  | .allocate windowTokens chunkTokens carryFailure failure =>
    if windowTokens = 0 ∨ chunkTokens = 0 ∨ maxTokens < chunkTokens ∨
        workspace.carryTokens < windowTokens ∧ carryFailure ≠ none then none
    else if Allocates chunkTokens failure then some (.worstCase chunkTokens)
    else some .failed
  | .ensureBatchScratch layerId count failure =>
    if layers.length ≤ layerId ∨ workspace.AlreadyFits layerId count then none
    else if Allocates count failure then some (.forLayer layerId count)
    else some .failed
  | .free => none

end Workspace

/-- A workspace with its last allocation. -/
structure History where
  workspace : Workspace := {}
  last : Option Attempt := none

/-- A call and what it makes the last allocation; `free` forgets it. -/
def History.step
    (layers : List LayerCapacities)
    (history : History)
    (call : Call) : History where
  workspace := history.workspace.step layers call
  last :=
    match call with
    | .free => none
    | call => (history.workspace.begun layers call).orElse fun _ => history.last

/-- A run of calls from a new workspace. -/
def run
    (layers : List LayerCapacities)
    (calls : List Call) : History :=
  calls.foldl (History.step layers) {}

end Aeon.PrefillWorkspace
