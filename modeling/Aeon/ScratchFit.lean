import Aeon.PrefillWorkspace

namespace Aeon.PrefillWorkspace

/-!
# Whether the scratch fits the layer about to use it

The scratch is what the last allocation made of it: everything that allocation was for
if it went through, and fewer buffers than it needs if not.  A call that returns early
therefore leaves a scratch that fits its layer just when the last allocation was large
enough for the layer.
-/

/-- The scratch serves `count` tokens of a layer. -/
structure Fits
    (scratch : BatchScratch)
    (layer : LayerCapacities)
    (count : Nat) : Prop where
  allocated : scratch.buffers = scratch.wanted
  tokens : count ≤ scratch.tokenCount
  scores : layer.compressedCapacity ≤ scratch.indexScoresPerToken
  topk : scratch.indexTopkPerToken = layer.indexTopk
  composed : layer.localCapacity + count ≤ scratch.maxComposedRows

/-- The last allocation went through and was large enough for a layer. -/
def Covered
    (layers : List LayerCapacities)
    (last : Option Attempt)
    (layer : LayerCapacities)
    (count : Nat) : Prop :=
  match last with
  | some (.worstCase chunkTokens) => count ≤ chunkTokens
  | some (.forLayer layerId tokens) =>
    count ≤ tokens ∧
      ∃ sized ∈ layers[layerId]?,
        layer.compressedCapacity ≤ sized.compressedCapacity ∧
          layer.localCapacity + count ≤ sized.localCapacity + maxTokens
  | _ => False

/-! ## One allocation -/

namespace BatchScratch

/-- The scratch of an allocation that goes through. -/
def full
    (capacities : LayerCapacities)
    (count : Nat) : BatchScratch where
  buffers := layout count capacities.compressedCapacity capacities.indexTopk
    (capacities.localCapacity + maxTokens)
  tokenCount := count
  indexScoresPerToken := capacities.compressedCapacity
  indexTopkPerToken := capacities.indexTopk
  maxComposedRows := capacities.localCapacity + maxTokens

theorem wanted_length (scratch : BatchScratch) : scratch.wanted.length = bufferCount :=
  rfl

section

variable
    (scratch : BatchScratch)
    (capacities : LayerCapacities)
    {count : Nat}
    {failure : Option Failure}

include scratch capacities

theorem allocateCapacity_of_allocates
    (allocates : Allocates count failure) :
    scratch.allocateCapacity capacities count failure =
      (full capacities count, .ok ()) := by
  obtain ⟨some, few, late⟩ := allocates
  rw [allocateCapacity, if_neg (by omega)]
  cases failure with
  | none => rfl
  | some reason =>
    have behind := late reason rfl
    dsimp only
    rw [if_neg (by rw [wanted_length]; omega)]
    rfl

/-- An allocation that does not go through leaves buffers out. -/
theorem allocateCapacity_of_not_allocates
    (fails : ¬ Allocates count failure) :
    ∃ partial' message,
      scratch.allocateCapacity capacities count failure = (partial', .error message) ∧
        partial'.buffers ≠ partial'.wanted := by
  rw [allocateCapacity]
  by_cases unsupported : count = 0 ∨ maxTokens < count
  · rw [if_pos unsupported]
    exact ⟨_, _, rfl, by simp [free, wanted, layout]⟩
  rw [if_neg unsupported]
  cases failure with
  | none => exact absurd ⟨by omega, by omega, by simp⟩ fails
  | some reason =>
    have early : reason.buffer < bufferCount := by
      by_contra late
      refine fails ⟨by omega, by omega, fun other same => ?_⟩
      rw [Option.mem_some_iff] at same
      subst same
      omega
    dsimp only
    rw [if_pos (by rw [wanted_length]; exact early)]
    refine ⟨_, _, rfl, fun same => ?_⟩
    have lengths := congrArg List.length same
    rw [wanted_length, List.length_take, wanted_length] at lengths
    omega

end

end BatchScratch

/-! ## One call -/

namespace Workspace

variable (workspace : Workspace) (layers : List LayerCapacities)

section

variable
    {layer : LayerCapacities}
    {layerId count : Nat}
    {failure : Option BatchScratch.Failure}
    (stale : ¬ workspace.AlreadyFits layerId count)

include stale

theorem ensureBatchScratch_of_allocates
    (allocates : Allocates count failure) :
    workspace.ensureBatchScratch layer layerId count failure =
      ({ workspace with
          batchScratch := .full layer count
          batchScratchLayer := layerId
          batchScratchCount := count }, .ok ()) := by
  rw [ensureBatchScratch, if_neg stale,
    BatchScratch.allocateCapacity_of_allocates _ _ allocates]

theorem ensureBatchScratch_of_not_allocates
    (fails : ¬ Allocates count failure) :
    ∃ partial' message,
      workspace.ensureBatchScratch layer layerId count failure =
        ({ workspace with batchScratch := partial' }, .error message) ∧
      partial'.buffers ≠ partial'.wanted := by
  obtain ⟨partial', message, same, short⟩ :=
    BatchScratch.allocateCapacity_of_not_allocates workspace.batchScratch layer fails
  refine ⟨partial', message, ?_, short⟩
  rw [ensureBatchScratch, if_neg stale, same]

end

theorem ensurePrefillCarry_scratch
    (tokens : Nat)
    (failure : Option String) :
    ∃ carryTokens, (workspace.ensurePrefillCarry tokens failure).1 =
      { workspace with carryTokens := carryTokens } := by
  unfold ensurePrefillCarry
  split
  · exact ⟨workspace.carryTokens, rfl⟩
  split
  · exact ⟨workspace.carryTokens, rfl⟩
  cases failure with
  | none => exact ⟨tokens, rfl⟩
  | some message => exact ⟨0, rfl⟩

/-- The carry is there unless it has to grow and cannot. -/
theorem ensurePrefillCarry_ok
    {tokens : Nat}
    {failure : Option String}
    (some : tokens ≠ 0) :
    (workspace.ensurePrefillCarry tokens failure).2 = .ok () ↔
      ¬ (workspace.carryTokens < tokens ∧ failure ≠ none) := by
  unfold ensurePrefillCarry
  rw [if_neg some]
  by_cases held : tokens ≤ workspace.carryTokens
  · rw [if_pos held]
    exact iff_of_true rfl fun grows => absurd grows.1 (Nat.not_lt.mpr held)
  rw [if_neg held]
  cases failure with
  | none => exact iff_of_true rfl fun grows => grows.2 rfl
  | some message => exact iff_of_false nofun fun holds => holds ⟨by omega, nofun⟩

section

variable
    {windowTokens chunkTokens : Nat}
    {carryFailure : Option String}
    {failure : Option BatchScratch.Failure}

/-- `allocate` turns down what it does not begin, and leaves the scratch alone. -/
theorem allocate_of_not_begun
    (refused : windowTokens = 0 ∨ chunkTokens = 0 ∨ maxTokens < chunkTokens ∨
      workspace.carryTokens < windowTokens ∧ carryFailure ≠ none) :
    ∃ carryTokens,
      (workspace.allocate layers windowTokens chunkTokens carryFailure failure).1 =
        { workspace with carryTokens := carryTokens } := by
  unfold allocate
  split
  · exact ⟨workspace.carryTokens, rfl⟩
  next some =>
  split
  · exact ⟨workspace.carryTokens, rfl⟩
  next few =>
  obtain ⟨carryTokens, same⟩ :=
    workspace.ensurePrefillCarry_scratch windowTokens carryFailure
  have fails : (workspace.ensurePrefillCarry windowTokens carryFailure).2 ≠ .ok () := by
    intro held
    have holds := (workspace.ensurePrefillCarry_ok (by omega)).mp held
    rcases refused with empty | empty | many | grows
    · exact some (.inl empty)
    · exact some (.inr empty)
    · exact few many
    · exact holds grows
  refine ⟨carryTokens, ?_⟩
  generalize workspace.ensurePrefillCarry windowTokens carryFailure = carried
    at same fails
  obtain ⟨carried, _ | ⟨⟨⟩⟩⟩ := carried
  · exact same
  · exact absurd rfl fails

theorem allocate_of_begun
    (begun : ¬ (windowTokens = 0 ∨ chunkTokens = 0 ∨ maxTokens < chunkTokens ∨
      workspace.carryTokens < windowTokens ∧ carryFailure ≠ none)) :
    (workspace.allocate layers windowTokens chunkTokens carryFailure
        failure).1.batchScratch =
      (workspace.batchScratch.allocateCapacity (worstCase layers) chunkTokens
        failure).1 := by
  obtain ⟨carryTokens, same⟩ :=
    workspace.ensurePrefillCarry_scratch windowTokens carryFailure
  simp only [not_or] at begun
  obtain ⟨window, chunk, few, grows⟩ := begun
  have held : (workspace.ensurePrefillCarry windowTokens carryFailure).2 = .ok () :=
    (workspace.ensurePrefillCarry_ok window).mpr grows
  unfold allocate
  rw [if_neg (by omega), if_neg few]
  generalize workspace.ensurePrefillCarry windowTokens carryFailure = carried
    at same held
  obtain ⟨carried, _ | ⟨⟨⟩⟩⟩ := carried
  · cases held
  obtain rfl : carried = { workspace with carryTokens := carryTokens } := same
  dsimp only
  generalize workspace.batchScratch.allocateCapacity (worstCase layers) chunkTokens
    failure = allocated
  obtain ⟨scratch, _ | ⟨⟨⟩⟩⟩ := allocated
  · rfl
  · dsimp only
    split <;> rfl

end

end Workspace

/-! ## The last allocation tells the scratch -/

/-- The scratch is what the last allocation made of it. -/
def Tracks
    (layers : List LayerCapacities)
    (workspace : Workspace) : Option Attempt → Prop
  | none =>
    workspace.prefillWorkspaceReady = false ∧ workspace.batchScratchCount = 0
  | some .failed => workspace.batchScratch.buffers ≠ workspace.batchScratch.wanted
  | some (.worstCase chunkTokens) =>
    workspace.batchScratch = .full (worstCase layers) chunkTokens
  | some (.forLayer layerId count) =>
    ∃ layer ∈ layers[layerId]?, workspace.batchScratch = .full layer count

section

variable
    {layers : List LayerCapacities}

theorem Tracks.carry
    {workspace : Workspace}
    {last : Option Attempt}
    (tracks : Tracks layers workspace last)
    (carryTokens : Nat) :
    Tracks layers { workspace with carryTokens := carryTokens } last := by
  cases last with
  | none => exact tracks
  | some attempt => cases attempt <;> exact tracks

theorem Tracks.step
    {history : History}
    (tracks : Tracks layers history.workspace history.last)
    (call : Call) :
    Tracks layers (history.step layers call).workspace
      (history.step layers call).last := by
  obtain ⟨workspace, last⟩ := history
  cases call with
  | free => exact ⟨rfl, rfl⟩
  | ensureBatchScratch layerId count failure =>
    simp only [History.step, Workspace.step, Workspace.begun]
    cases known : layers[layerId]? with
    | none =>
      rw [if_pos (.inl (List.getElem?_eq_none_iff.mp known))]
      exact tracks
    | some layer =>
      have inside : ¬ layers.length ≤ layerId := fun outside => by
        rw [List.getElem?_eq_none outside] at known
        cases known
      dsimp only
      by_cases already : workspace.AlreadyFits layerId count
      · rw [if_pos (.inr already), Workspace.ensureBatchScratch, if_pos already]
        exact tracks
      rw [if_neg (not_or.mpr ⟨inside, already⟩)]
      by_cases allocates : Allocates count failure
      · rw [if_pos allocates,
          workspace.ensureBatchScratch_of_allocates already allocates]
        exact ⟨layer, known, rfl⟩
      · obtain ⟨partial', message, same, short⟩ :=
          @Workspace.ensureBatchScratch_of_not_allocates workspace layer layerId
            count failure already allocates
        rw [if_neg allocates, same]
        exact short
  | allocate windowTokens chunkTokens carryFailure failure =>
    simp only [History.step, Workspace.step, Workspace.begun]
    split
    next refused =>
      obtain ⟨carryTokens, same⟩ :=
        @Workspace.allocate_of_not_begun workspace layers _ _ _ failure refused
      rw [same]
      exact tracks.carry carryTokens
    next begun =>
      have scratch :=
        @Workspace.allocate_of_begun workspace layers _ _ _ failure begun
      by_cases allocates : Allocates chunkTokens failure
      · rw [if_pos allocates]
        rw [BatchScratch.allocateCapacity_of_allocates _ _ allocates] at scratch
        exact scratch
      · obtain ⟨partial', message, same, short⟩ :=
          BatchScratch.allocateCapacity_of_not_allocates workspace.batchScratch
            (worstCase layers) allocates
        rw [same] at scratch
        rw [if_neg allocates]
        show _ ≠ _
        rw [scratch]
        exact short

end

theorem tracks_run
    (layers : List LayerCapacities)
    (calls : List Call) :
    Tracks layers (run layers calls).workspace (run layers calls).last := by
  have walk : ∀ history : History, Tracks layers history.workspace history.last →
      Tracks layers (calls.foldl (History.step layers) history).workspace
        (calls.foldl (History.step layers) history).last := by
    induction calls with
    | nil => exact fun _ tracks => tracks
    | cons call rest ih =>
      exact fun history tracks => ih _ (tracks.step call)
  exact walk {} ⟨rfl, rfl⟩

/-! ## Fitting a layer -/

/-- Every capacity of one layer is at most the other's. -/
structure LayerCapacities.AtMost (one other : LayerCapacities) : Prop where
  compressedCapacity : one.compressedCapacity ≤ other.compressedCapacity
  indexTopk : one.indexTopk ≤ other.indexTopk
  localCapacity : one.localCapacity ≤ other.localCapacity

section

variable
    {layers : List LayerCapacities}
    {layer : LayerCapacities}
    (listed : layer ∈ layers)

include listed

theorem atMost_worstCase :
    layer.AtMost (worstCase layers) := by
  have walk : ∀ worst : LayerCapacities,
      worst.AtMost (layers.foldl LayerCapacities.sup worst) ∧
        ∀ layer ∈ layers, layer.AtMost (layers.foldl LayerCapacities.sup worst) := by
    clear listed
    induction layers with
    | nil => exact fun worst => ⟨⟨Nat.le_refl _, Nat.le_refl _, Nat.le_refl _⟩, by simp⟩
    | cons first rest ih =>
      intro worst
      obtain ⟨grows, covers⟩ := ih (worst.sup first)
      have kept := grows.compressedCapacity
      have kept' := grows.indexTopk
      have kept'' := grows.localCapacity
      simp only [LayerCapacities.sup, Nat.max_le] at kept kept' kept''
      refine ⟨⟨kept.1, kept'.1, kept''.1⟩, fun layer listed => ?_⟩
      rcases List.mem_cons.mp listed with rfl | later
      · exact ⟨kept.2, kept'.2, kept''.2⟩
      · exact covers layer later
  exact (walk _).2 layer listed

theorem worstCase_indexTopk
    (sameTopk : ∀ other ∈ layers, other.indexTopk = layer.indexTopk) :
    (worstCase layers).indexTopk = layer.indexTopk := by
  have walk : ∀ worst : LayerCapacities, worst.indexTopk ≤ layer.indexTopk →
      (layers.foldl LayerCapacities.sup worst).indexTopk ≤ layer.indexTopk := by
    clear listed
    induction layers with
    | nil => exact fun _ below => below
    | cons first rest ih =>
      intro worst below
      refine ih
        (fun other later => sameTopk other (List.mem_cons_of_mem _ later)) _ ?_
      exact Nat.max_le.mpr ⟨below, Nat.le_of_eq (sameTopk first List.mem_cons_self)⟩
  exact Nat.le_antisymm (walk _ (Nat.zero_le _)) (atMost_worstCase listed).indexTopk

end

section Layers

variable {layers : List LayerCapacities} {layer : LayerCapacities} {layerId count : Nat}

theorem fits_full_iff
    {sized : LayerCapacities}
    {tokens : Nat}
    (sameTopk : sized.indexTopk = layer.indexTopk) :
    Fits (.full sized tokens) layer count ↔
      count ≤ tokens ∧ layer.compressedCapacity ≤ sized.compressedCapacity ∧
        layer.localCapacity + count ≤ sized.localCapacity + maxTokens :=
  ⟨fun fits => ⟨fits.tokens, fits.scores, fits.composed⟩,
    fun ⟨tokens, scores, composed⟩ => ⟨rfl, tokens, scores, sameTopk, composed⟩⟩

theorem Tracks.fits_iff
    {workspace : Workspace}
    {last : Option Attempt}
    (tracks : Tracks layers workspace last)
    (begun : last ≠ none)
    (listed : layer ∈ layers)
    (sameTopk : ∀ other ∈ layers, other.indexTopk = layer.indexTopk)
    (few : count ≤ maxTokens) :
    Fits workspace.batchScratch layer count ↔ Covered layers last layer count := by
  cases last with
  | none => exact absurd rfl begun
  | some attempt =>
    cases attempt with
    | failed => exact iff_of_false (fun fits => tracks fits.allocated) id
    | worstCase chunkTokens =>
      have worst := atMost_worstCase listed
      have scratch :
          workspace.batchScratch = .full (worstCase layers) chunkTokens := tracks
      rw [scratch, fits_full_iff (worstCase_indexTopk listed sameTopk)]
      have composed := worst.localCapacity
      exact ⟨fun fits => fits.1, fun tokens =>
        ⟨tokens, worst.compressedCapacity, by omega⟩⟩
    | forLayer sizedId tokens =>
      obtain ⟨sized, known, scratch⟩ := tracks
      have sizedListed := List.mem_of_getElem? known
      rw [scratch, fits_full_iff (sameTopk sized sizedListed), Covered]
      refine and_congr_right fun _ => ⟨fun fits => ⟨sized, known, fits⟩, ?_⟩
      rintro ⟨other, otherKnown, fits⟩
      obtain rfl := Option.some.inj (known.symm.trans otherKnown)
      exact fits

/--
After every run, a call that returns leaves a scratch that fits its layer, if it
allocated or the last allocation covers the layer, and not otherwise.
-/
theorem ensureBatchScratch_fits_iff
    (layers : List LayerCapacities)
    (sameTopk : ∀ one ∈ layers, ∀ other ∈ layers, one.indexTopk = other.indexTopk)
    (calls : List Call)
    {layerId count : Nat}
    {layer : LayerCapacities}
    (known : layers[layerId]? = some layer)
    (some : 1 ≤ count)
    (few : count ≤ maxTokens)
    {failure : Option BatchScratch.Failure}
    {after : Workspace}
    (returned : (run layers calls).workspace.ensureBatchScratch layer layerId count
      failure = (after, .ok ())) :
    Fits after.batchScratch layer count ↔
      ((run layers calls).workspace.AlreadyFits layerId count →
        Covered layers (run layers calls).last layer count) := by
  have tracks := tracks_run layers calls
  generalize run layers calls = history at tracks returned ⊢
  have listed := List.mem_of_getElem? known
  by_cases already : history.workspace.AlreadyFits layerId count
  · rw [Workspace.ensureBatchScratch, if_pos already] at returned
    obtain rfl := (Prod.mk.inj returned).1
    have begun : history.last ≠ none := by
      intro nothing
      rw [nothing] at tracks
      obtain ⟨unready, unrecorded⟩ := tracks
      rcases already with ⟨ready, -⟩ | ⟨same, -⟩
      · rw [unready] at ready
        cases ready
      · omega
    rw [tracks.fits_iff begun listed (fun other otherListed =>
      sameTopk other otherListed layer listed) few]
    exact ⟨fun covered _ => covered, fun covered => covered already⟩
  · by_cases allocates : Allocates count failure
    · rw [history.workspace.ensureBatchScratch_of_allocates already
        allocates] at returned
      obtain rfl := (Prod.mk.inj returned).1
      refine iff_of_true ?_ fun fits => absurd fits already
      exact (fits_full_iff rfl).mpr ⟨Nat.le_refl _, Nat.le_refl _, by omega⟩
    · obtain ⟨partial', message, same, -⟩ :=
        history.workspace.ensureBatchScratch_of_not_allocates already allocates
      rw [same] at returned
      cases (Prod.mk.inj returned).2

end Layers

/-- A layer of ratio 128 and one of ratio 4, at a context of 1024. -/
def twoLayers : List LayerCapacities :=
  [⟨8, 512, 128⟩, ⟨256, 512, 128⟩]

theorem ensureBatchScratch_fits_iff_loaded :
    Fits (run twoLayers [.allocate 256 128 none none]).workspace.batchScratch
      ⟨256, 512, 128⟩ 128 :=
  (@ensureBatchScratch_fits_iff twoLayers (by decide) [.allocate 256 128 none none] 1
    128 ⟨256, 512, 128⟩ rfl (by decide) (by decide) none _ rfl).mpr fun _ => Nat.le_refl 128

/--
A window of chunks above the loaded chunk re-sizes the scratch for its first layer, and
the next layer takes it as it is.
-/
theorem larger_layer_gets_smaller_scratch :
    ((run twoLayers [.allocate 256 128 none none, .ensureBatchScratch 0 200
        none]).workspace.ensureBatchScratch ⟨256, 512, 128⟩ 1 200 none).2 = .ok () ∧
      ¬ Fits ((run twoLayers [.allocate 256 128 none none, .ensureBatchScratch 0 200
        none]).workspace.ensureBatchScratch ⟨256, 512, 128⟩ 1 200 none).1.batchScratch
        ⟨256, 512, 128⟩ 200 := by
  refine ⟨by decide, fun fits => ?_⟩
  exact absurd fits.scores (by decide)

end Aeon.PrefillWorkspace
