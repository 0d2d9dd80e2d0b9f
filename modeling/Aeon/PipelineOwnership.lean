import Aeon.DispatchOwnership

namespace Aeon.Transport

open Aeon.Registry
open Call (Ensures eachPart onFirst)

/-!
# The pipeline and the ownership of slots

A batch outlives the transfers it lists.  The pipeline's passes work on an entry's
slot for its operation, so they need that no other operation has taken the slot
since; under that condition a pass leaves the slots owned and every record naming
what it named before.
-/

variable
    {frame : Reads → Holdings → Prop}
    {filling : Filling}
    {setup : SupplySetup}
    {operationId slot : Nat}

/-- No other operation's record is listed with the slot. -/
def ClearIn
    (holdings : Holdings)
    (operationId slot : Nat) : Prop :=
  ∀ held ∈ holdings, held.1 ≠ operationId → slot ∉ held.2

theorem clear_iff
    {supply : Supply} :
    Clear operationId slot supply ↔
      ClearIn supply.holdings operationId slot := by
  unfold Clear ClearIn Supply.holdings
  simp only [List.mem_map, forall_exists_index, and_imp,
    forall_apply_eq_imp_iff₂]

/-! ## The copy leg -/

/-- Steady, with a slot no other operation has taken. -/
structure Apart
    (setup : SupplySetup)
    (frame : Reads → Holdings → Prop)
    (filling : Filling)
    (operationId slot : Nat)
    (supply : Supply) : Prop where
  steady : Steady setup frame filling supply
  clear : Clear operationId slot supply
  idle : slot ∉ filling.slots

theorem Working.apart
    {supply : Supply}
    (working : Working setup frame filling operationId slot supply) :
    Apart setup frame filling operationId slot supply :=
  ⟨working.steady, working.bound.clear working.steady.owned, working.idle⟩

theorem transition_apart
    {expected : SlotState}
    (reading : expected = .ioPending ∨ expected = .ioComplete)
    (next : SlotState) :
    Ensures (Apart setup frame filling operationId slot)
      (transition setup expected next operationId slot)
      (fun _ supply =>
        Working setup frame filling operationId slot supply ∧
          supply.slots slot = next)
      (Steady setup frame filling) := by
  refine .andThen (validateSlot_ensures fun _ _ apart => apart.steady)
    fun _ => .read fun current => ?_
  refine .andThen (.check fun _ _ holds => holds.1.2.steady)
    fun _ => .write ?_
  rintro supply ⟨stands, ⟨inRange, apart⟩, rfl⟩
  simp only [decide_eq_true_eq] at stands
  have bound :=
    apart.steady.owned.bound_of_reading apart.clear (stands ▸ reading)
  refine ⟨⟨?_, bound, apart.idle⟩, Function.update_self _ _ _⟩
  exact apart.steady.setSlot apart.idle
    (bound.setSlot apart.steady.owned inRange next)

/-- The copy of an entry whose slot is its own. -/
theorem uploadStaged_steady
    (state : PayloadTransfer) :
    Ensures
      (Apart setup frame filling state.operationId state.stagingIdx)
      (uploadStaged setup state)
      (fun _ => Steady setup frame filling)
      (Steady setup frame filling) := by
  have finished :
      Ensures
        (Apart setup frame filling state.operationId state.stagingIdx)
        (finishRead setup state)
        (fun _ => Apart setup frame filling state.operationId
          state.stagingIdx)
        (Steady setup frame filling) := by
    refine .branch (fun _ => .ret fun _ apart => apart) (fun _ => ?_)
    exact (transition_apart (Or.inl rfl) .ioComplete).weaken
      (fun _ apart => apart) (fun _ _ after => after.1.apart)
      (fun _ steady => steady)
  refine .andThen finished fun _ => ?_
  refine .andThen (transition_apart (Or.inr rfl) .gpuTransferPending)
    fun _ => ?_
  refine .andThen (.leaves waitForDemotionDependency_leaves
    fun _ holds => holds.1.steady) fun _ => ?_
  refine .andThen (.leaves (copySource_leaves state)
    fun _ holds => holds.1.steady) fun _ => ?_
  refine .andThen (.leaves (uploadFromHostExpert_leaves _)
    fun _ holds => holds.1.steady) fun _ => ?_
  refine .andThen (.leaves (submit_leaves _) fun _ holds => holds.1.steady)
    fun _ => ?_
  exact (recordH2dEvent_working _ _).weaken (fun _ holds => holds)
    (fun _ _ steady => steady) (fun _ stopped => stopped.steady)

/-! ## One entry -/

/-- Whether an entry's slot is still to be worked on. -/
def PayloadTransfer.reading (state : PayloadTransfer) : Bool :=
  state.ioPending || state.ioComplete

/-- The records name what they named, whatever the reads. -/
def heldAs (holdings : Holdings) : Reads → Holdings → Prop :=
  fun _ held => held = holdings

/-- Steady, with an entry whose slot no other operation has taken. -/
structure Tended
    (setup : SupplySetup)
    (holdings : Holdings)
    (pair : Supply × PayloadTransfer) : Prop where
  steady : Steady setup (heldAs holdings) {} pair.1
  clear :
    pair.2.reading = true →
      ClearIn holdings pair.2.operationId pair.2.stagingIdx

variable {holdings : Holdings}

theorem onFirst_tended
    {Value : Type}
    {call : SupplyCall Value}
    (ensures :
      Ensures (Steady setup (heldAs holdings) {}) call
        (fun _ => Steady setup (heldAs holdings) {})
        (Steady setup (heldAs holdings) {}))
    (More : PayloadTransfer → Prop) :
    Ensures
      (fun pair : Supply × PayloadTransfer =>
        Tended setup holdings pair ∧ More pair.2)
      (onFirst call)
      (fun _ pair => Tended setup holdings pair ∧ More pair.2)
      (Tended setup holdings) := by
  refine .onFirst fun part => ?_
  rintro supply answers ⟨tended, more⟩
  have finished := ensures supply answers tended.steady
  generalize call supply answers = outcome at finished ⊢
  rcases outcome with ⟨error | value, after, rest⟩
  · exact ⟨finished, tended.clear⟩
  · exact ⟨⟨finished, tended.clear⟩, more⟩

theorem attachDeferred_tended :
    Ensures
      (fun pair =>
        Tended setup holdings pair ∧ pair.2.reading = true)
      (attachDeferred setup)
      (fun _ pair =>
        Tended setup holdings pair ∧ pair.2.reading = true)
      (Tended setup holdings) := by
  refine .read fun current => .branch (fun _ => ?_) (fun _ => .branch
    (fun _ => ?_) (fun _ => ?_))
  · exact .ret fun _ holds => holds.1
  · exact .ret fun _ holds => holds.1
  · have attached :
        Ensures
          (fun pair =>
            (Tended setup holdings pair ∧ pair.2.reading = true) ∧
              pair = current)
          (onFirst (onRegistry fun registry =>
            registry.attachVramDestination current.2.operationId
              setup.demotionQueueCapacity))
          (fun _ pair =>
            Tended setup holdings pair ∧ pair.2.reading = true)
          (Tended setup holdings) :=
      (onFirst_tended
        (onRegistry_steady fun registry =>
          (Frame.refl _ registry).attachVramDestination.nextOperationId)
        fun state => state.reading = true).weaken
          (fun _ holds => holds.1) (fun _ _ after => after)
          (fun _ tended => tended)
    refine .andThen attached fun vramSlot => .andThen (.write ?_)
      fun _ => .ret fun _ holds => holds
    rintro pair ⟨tended, reading⟩
    exact ⟨⟨tended.steady, tended.clear⟩, reading⟩

/-- Enqueuing a copy keeps the entry tended. -/
theorem enqueueExpertCopy_tended :
    Ensures
      (fun pair =>
        Tended setup holdings pair ∧ pair.2.reading = true)
      (enqueueExpertCopy setup)
      (fun _ => Tended setup holdings)
      (Tended setup holdings) := by
  refine .andThen attachDeferred_tended fun attached =>
    .branch (fun _ => .read fun current => ?_) (fun _ => ?_)
  · have uploaded :
        Ensures
          (fun pair =>
            (Tended setup holdings pair ∧ pair.2.reading = true) ∧
              pair = current)
          (onFirst (uploadStaged setup current.2))
          (fun _ pair => Steady setup (heldAs holdings) {} pair.1)
          (Tended setup holdings) := by
      refine .onFirst fun part => ?_
      rintro supply answers ⟨⟨tended, reading⟩, rfl⟩
      have clear : Clear part.operationId part.stagingIdx supply := by
        rw [clear_iff, show supply.holdings = holdings from
          tended.steady.framed]
        exact tended.clear reading
      have finished := uploadStaged_steady part supply answers
        ⟨tended.steady, clear, List.not_mem_nil⟩
      dsimp only
      generalize uploadStaged setup part supply answers =
        outcome at finished ⊢
      rcases outcome with ⟨error | value, after, rest⟩
      · exact ⟨finished, tended.clear⟩
      · exact finished
    refine .andThen uploaded fun _ => .andThen (.write ?_)
      fun _ => .ret fun _ tended => tended
    intro pair steady
    exact ⟨steady, nofun⟩
  · exact .ret fun _ holds => holds.1

theorem enqueueOrThrow_tended :
    Ensures
      (fun pair =>
        Tended setup holdings pair ∧ pair.2.reading = true)
      (enqueueOrThrow setup)
      (fun _ => Tended setup holdings)
      (Tended setup holdings) :=
  .andThen enqueueExpertCopy_tended fun _ =>
    (Call.Ensures.check fun _ _ tended => tended).weaken
      (fun _ tended => tended) (fun _ _ after => after.2)
      (fun _ tended => tended)

/-! ## The read-completion leg -/

/-- With no slot to protect, a request may be marked failed at any time. -/
theorem failRead_steady
    {Value : Type}
    {Returned : Value → Supply → Prop}
    (reason : String)
    (error : SupplyError) :
    Ensures (Steady setup frame {})
      (failRead setup operationId reason error)
      Returned
      (Steady setup frame {}) :=
  .andThen ((markRequestFailed_steady reason).weaken
    (fun _ steady => ⟨steady, fun _ _ _ _ => List.not_mem_nil⟩)
    (fun _ _ steady => steady) (fun _ steady => steady))
    fun _ => .throwing fun _ steady => steady

theorem checkRead_steady
    (chunk : Nat)
    (result : Int) :
    Ensures (Steady setup frame {})
      (checkRead setup operationId chunk result)
      (fun _ => Steady setup frame {})
      (Steady setup frame {}) :=
  .branch (fun _ => failRead_steady _ _) fun _ =>
    .branch (fun _ => failRead_steady _ _) fun _ =>
      .ret fun _ steady => steady

section Reads

variable
    (ignores : ∀ reads other held, frame reads held → frame other held)

include ignores

theorem waitForCompletion_steady :
    Ensures (Steady setup frame {})
      waitForCompletion
      (fun _ => Steady setup frame {})
      (Steady setup frame {}) := by
  have pops (rest : List DirectIoCompletion) (supply : Supply)
      (steady : Steady setup frame {} supply) :
      Steady setup frame {} { supply with posted := rest } :=
    steady.readsOnly ignores ⟨rfl, rfl, rfl, rfl⟩
  refine .read fun current => ?_
  cases current.posted with
  | cons completion rest =>
    exact .andThen (.write fun _ holds => pops rest _ holds.1)
      fun _ => .ret fun _ steady => steady
  | nil =>
    refine .ask fun answer => .andThen (.write fun _ holds =>
      holds.1.readsOnly ignores (.answered _ answer)) fun _ =>
        .read fun waited => ?_
    cases waited.posted with
    | cons completion rest =>
      exact .andThen (.write fun _ holds => pops rest _ holds.1)
        fun _ => .ret fun _ steady => steady
    | nil => exact .throwing fun _ holds => holds.1

theorem awaitCompletion_steady
    (userData turns : Nat) :
    Ensures (Steady setup frame {})
      (awaitCompletion setup operationId userData turns)
      (fun _ => Steady setup frame {})
      (Steady setup frame {}) := by
  induction turns with
  | zero => exact failRead_steady _ _
  | succ turns ih =>
    refine .read fun current => ?_
    cases current.stored userData with
    | some completion => exact .ret fun _ holds => holds.1
    | none =>
      refine .andThen ((Call.Ensures.catching
        (waitForCompletion_steady ignores)
        fun error => failRead_steady _ error).weaken
          (fun _ holds => holds.1) (fun _ _ steady => steady)
          (fun _ steady => steady)) fun completion => ?_
      exact .andThen (.write fun _ steady =>
        steady.readsOnly ignores (.emplace _ completion))
        fun _ => ih

theorem awaitChunk_steady
    (state : PayloadTransfer)
    (chunk : Nat) :
    Ensures (Steady setup frame {})
      (awaitChunk setup state chunk)
      (fun _ => Steady setup frame {})
      (Steady setup frame {}) := by
  refine .read fun current => ?_
  refine .andThen ((awaitCompletion_steady ignores _ _).weaken
    (fun _ holds => holds.1) (fun _ _ steady => steady)
    (fun _ steady => steady)) fun completion => ?_
  refine .andThen (.write fun _ steady =>
    steady.readsOnly ignores (.consume _ _ completion)) fun _ => ?_
  exact .branch (fun _ => failRead_steady _ _)
    fun _ => checkRead_steady _ _

theorem takeChunk_steady
    (state : PayloadTransfer)
    (chunk : Nat) :
    Ensures (Steady setup frame {})
      (takeChunk setup state chunk)
      (fun _ => Steady setup frame {})
      (Steady setup frame {}) := by
  refine .read fun current => ?_
  cases current.stored (state.ioUserData + chunk) with
  | none => exact .ret fun _ holds => holds.1
  | some completion =>
    refine .andThen (.write fun _ holds =>
      holds.1.readsOnly ignores (.consume _ _ completion)) fun _ => ?_
    exact checkRead_steady _ _

end Reads

/-! ## One entry of a pass -/

theorem heldAs_ignores
    (reads other : Reads)
    (held : Holdings)
    (same : heldAs holdings reads held) :
    heldAs holdings other held :=
  same

theorem materializeStaged_tended :
    Ensures (Tended setup holdings)
      (materializeStaged setup)
      (fun _ => Tended setup holdings)
      (Tended setup holdings) := by
  refine .read fun current => .branch (fun staged => ?_) (fun _ => ?_)
  · refine enqueueOrThrow_tended.weaken ?_ (fun _ _ tended => tended)
      (fun _ tended => tended)
    rintro pair ⟨tended, rfl⟩
    exact ⟨tended, by simp [PayloadTransfer.reading, staged]⟩
  · exact .ret fun _ holds => holds.1

theorem materializePending_tended :
    Ensures (Tended setup holdings)
      (materializePending setup)
      (fun _ => Tended setup holdings)
      (Tended setup holdings) := by
  refine .read fun current => .branch (fun pending => ?_) (fun _ => ?_)
  · have waited :
        Ensures
          (fun pair => Tended setup holdings pair ∧ pair = current)
          (onFirst (Call.forEach (awaitChunk setup current.2)
            (List.range current.2.ioRequestCount)))
          (fun _ pair =>
            Tended setup holdings pair ∧ pair.2.reading = true)
          (Tended setup holdings) := by
      refine (onFirst_tended (.forEach _ fun chunk _ =>
        awaitChunk_steady heldAs_ignores current.2 chunk)
        fun state => state.reading = true).weaken ?_
          (fun _ _ after => after) (fun _ tended => tended)
      rintro pair ⟨tended, rfl⟩
      exact ⟨tended, by simp [PayloadTransfer.reading, pending]⟩
    exact .andThen waited fun _ => enqueueOrThrow_tended
  · exact .ret fun _ holds => holds.1

theorem pumpCopy_tended :
    Ensures (Tended setup holdings)
      (pumpCopy setup)
      (fun _ => Tended setup holdings)
      (Tended setup holdings) := by
  refine .read fun current => .branch (fun staged => ?_) (fun _ => ?_)
  · refine .andThen (enqueueExpertCopy_tended.weaken ?_
      (fun _ _ tended => tended) (fun _ tended => tended))
        fun _ => .ret fun _ tended => tended
    rintro pair ⟨tended, rfl⟩
    exact ⟨tended, by simp [PayloadTransfer.reading, staged]⟩
  · exact .ret fun _ holds => holds.1

theorem landReads_tended :
    Ensures
      (fun pair =>
        Tended setup holdings pair ∧ pair.2.reading = true)
      (landReads setup)
      (fun _ => Tended setup holdings)
      (Tended setup holdings) := by
  refine .read fun current => ?_
  have taken :
      Ensures
        (fun pair =>
          (Tended setup holdings pair ∧ pair.2.reading = true) ∧
            pair = current)
        (onFirst (Call.forEach (takeChunk setup current.2)
          (List.range current.2.ioRequestCount)))
        (fun _ pair =>
          Tended setup holdings pair ∧ pair.2.reading = true)
        (Tended setup holdings) :=
    (onFirst_tended (.forEach _ fun chunk _ =>
      takeChunk_steady heldAs_ignores current.2 chunk)
      fun state => state.reading = true).weaken
        (fun _ holds => holds.1) (fun _ _ after => after)
        (fun _ tended => tended)
  refine .andThen taken fun _ => .write ?_
  rintro pair ⟨tended, reading⟩
  exact ⟨tended.steady, fun _ => tended.clear reading⟩

/-- One pump of an entry does, -/
theorem pumpEntry_tended :
    Ensures (Tended setup holdings)
      (pumpEntry setup)
      (fun _ => Tended setup holdings)
      (Tended setup holdings) := by
  refine .read fun current => .branch (fun pending => .branch (fun _ => ?_)
    (fun _ => ?_)) (fun _ => ?_)
  · refine .andThen (landReads_tended.weaken ?_ (fun _ _ tended => tended)
      (fun _ tended => tended)) fun _ => pumpCopy_tended
    rintro pair ⟨tended, rfl⟩
    exact ⟨tended, by simp [PayloadTransfer.reading, pending]⟩
  · exact .ret fun _ holds => holds.1
  · exact pumpCopy_tended.weaken (fun _ holds => holds.1)
      (fun _ _ tended => tended) (fun _ tended => tended)

/-! ## A pass over a batch -/

/-- Steady, with a batch whose slots no other operation has taken. -/
structure BatchTended
    (setup : SupplySetup)
    (holdings : Holdings)
    (transfers : List PayloadTransfer)
    (supply : Supply) : Prop where
  steady : Steady setup (heldAs holdings) {} supply
  clear :
    ∀ state ∈ transfers,
      state.reading = true →
        ClearIn holdings state.operationId state.stagingIdx

theorem eachPart_tended
    {step : EntryCall Unit}
    (stepEnsures :
      Ensures (Tended setup holdings) step
        (fun _ => Tended setup holdings) (Tended setup holdings)) :
    Ensures
      (fun pair => BatchTended setup holdings pair.2 pair.1)
      (eachPart step)
      (fun _ pair => BatchTended setup holdings pair.2 pair.1)
      (fun pair => BatchTended setup holdings pair.2 pair.1) := by
  let Keeps (done rest : List PayloadTransfer) (supply : Supply) : Prop :=
    BatchTended setup holdings (done ++ rest) supply
  have turn (done : List PayloadTransfer) (part : PayloadTransfer)
      (rest : List PayloadTransfer) :
      Ensures
        (fun pair => pair.2 = part ∧ Keeps done (part :: rest) pair.1)
        step
        (fun _ pair => Keeps (done ++ [pair.2]) rest pair.1)
        (fun pair => Keeps done (pair.2 :: rest) pair.1) := by
    rintro ⟨supply, entry⟩ answers ⟨rfl, tended⟩
    have finished := stepEnsures (supply, entry) answers
      ⟨tended.steady, tended.clear entry (by simp)⟩
    have together (after : Supply) (changed : PayloadTransfer)
        (kept : Tended setup holdings (after, changed)) :
        BatchTended setup holdings (done ++ changed :: rest) after := by
      refine ⟨kept.steady, fun state listed => ?_⟩
      rcases List.mem_append.mp listed with before | later
      · exact tended.clear state (List.mem_append_left _ before)
      · rcases List.mem_cons.mp later with rfl | last
        · exact kept.clear
        · exact tended.clear state (by simp [last])
    generalize step (supply, entry) answers = outcome at finished ⊢
    rcases outcome with ⟨error | value, ⟨after, changed⟩, left⟩
    · exact together after changed finished
    · have ended := together after changed finished
      rw [List.append_cons] at ended
      exact ended
  rintro ⟨supply, transfers⟩ answers tended
  have finished :=
    Call.Ensures.eachPart turn transfers (supply, transfers) answers
      ⟨rfl, tended⟩
  generalize eachPart step (supply, transfers) answers =
    outcome at finished ⊢
  rcases outcome with ⟨error | value, ⟨after, changed⟩, left⟩
  · obtain ⟨done, rest, rfl, kept⟩ := finished
    exact kept
  · have kept : Keeps changed [] after := finished
    simp only [Keeps, List.append_nil] at kept
    exact kept

/-- and so does materialising the batch. -/
theorem materialize_tended :
    Ensures
      (fun pair => BatchTended setup holdings pair.2 pair.1)
      (materialize setup)
      (fun _ pair => BatchTended setup holdings pair.2 pair.1)
      (fun pair => BatchTended setup holdings pair.2 pair.1) :=
  .andThen (eachPart_tended materializeStaged_tended)
    fun _ => eachPart_tended materializePending_tended

theorem materializeAvailable_tended :
    Ensures
      (fun pair => BatchTended setup holdings pair.2 pair.1)
      (materializeAvailable setup)
      (fun _ pair => BatchTended setup holdings pair.2 pair.1)
      (fun pair => BatchTended setup holdings pair.2 pair.1) := by
  refine .andThen (.onFirst fun transfers => .write ?_)
    fun _ => eachPart_tended pumpEntry_tended
  intro supply tended
  refine ⟨?_, tended.clear⟩
  dsimp only
  split
  · exact tended.steady.readsOnly heldAs_ignores (.drainPosted supply)
  · exact tended.steady

/-! ## The drain -/

/-- Steady, with copying slots that belong to their entries' operations. -/
structure Draining
    (setup : SupplySetup)
    (allowed : Reads → Prop)
    (filling : Filling)
    (transfers : List PayloadTransfer)
    (supply : Supply) : Prop where
  steady : Steady setup (onReads allowed) filling supply
  clear :
    ∀ state ∈ transfers,
      state.isPrefetched = true →
        supply.slots state.stagingIdx = .gpuTransferPending →
          Clear state.operationId state.stagingIdx supply

variable {allowed : Reads → Prop}

theorem Draining.free
    {transfers : List PayloadTransfer}
    {supply : Supply}
    (draining : Draining setup allowed filling transfers supply)
    (clear : Clear operationId slot supply)
    (held : supply.slots slot = .gpuTransferPending) :
    Draining setup allowed filling transfers (supply.setSlot operationId slot .available) := by
  refine ⟨draining.steady.free (draining.steady.not_filling ?_) clear, ?_⟩
  · rw [held]
    decide
  intro state listed prefetched copying
  change Function.update supply.slots slot .available state.stagingIdx =
    .gpuTransferPending at copying
  have other : state.stagingIdx ≠ slot := by
    rintro rfl
    rw [Function.update_self] at copying
    contradiction
  rw [Function.update_of_ne other] at copying
  exact draining.clear state listed prefetched copying

theorem releaseStreamed_draining
    (rest : List PayloadTransfer)
    (part : PayloadTransfer) :
    Ensures
      (fun pair =>
        pair.2 = part ∧ Draining setup allowed filling (part :: rest) pair.1)
      (releaseStreamed setup)
      (fun _ pair => Draining setup allowed filling rest pair.1)
      (fun pair => Draining setup allowed filling (pair.2 :: rest) pair.1) := by
  have fewer (supply : Supply)
      (draining : Draining setup allowed filling (part :: rest) supply) :
      Draining setup allowed filling rest supply :=
    ⟨draining.steady, fun state listed =>
      draining.clear state (List.mem_cons_of_mem _ listed)⟩
  have leaving
      {call : SupplyCall Unit}
      (callLeaves : call.Leaves)
      (current : Supply × PayloadTransfer) :
      Ensures
        (fun pair =>
          (pair.2 = part ∧ Draining setup allowed filling (part :: rest) pair.1) ∧
            pair = current)
        (onFirst call)
        (fun _ pair =>
          (pair.2 = part ∧ Draining setup allowed filling (part :: rest) pair.1) ∧
            pair = current)
        (fun pair => Draining setup allowed filling (pair.2 :: rest) pair.1) :=
    .leaves callLeaves.onFirst fun pair holds => holds.1.1 ▸ holds.1.2
  refine .read fun current => .branch (fun prefetched => ?_) (fun _ => ?_)
  · refine .andThen (leaving validateSlot_leaves current)
      fun _ => .branch (fun copying => ?_) (fun _ => ?_)
    · refine .andThen (leaving (submit_leaves _) current) fun _ => ?_
      refine .andThen (.onFirst fun entry =>
        (releaseAfterGpuTransfer_ensures ?_).weaken (fun _ holds => holds)
          (fun _ _ after => after) fun supply holds =>
            holds.1.1 ▸ holds.1.2) fun _ => .write fun _ after => after
      rintro supply ⟨⟨rfl, draining⟩, rfl⟩ _
      exact (fewer _ draining).free
        (draining.clear entry List.mem_cons_self prefetched copying) copying
    · exact .write fun pair holds => fewer pair.1 holds.1.2
  · exact .ret fun pair holds => fewer pair.1 holds.1.2

/-- Releasing the streamed slots drains the batch. -/
theorem releaseStreamedStaging_draining :
    Ensures
      (fun pair => Draining setup allowed filling pair.2 pair.1)
      (releaseStreamedStaging setup)
      (fun _ pair => Steady setup (onReads allowed) filling pair.1)
      (fun pair => Steady setup (onReads allowed) filling pair.1) := by
  let Keeps (_ rest : List PayloadTransfer) (supply : Supply) : Prop :=
    Draining setup allowed filling rest supply
  have turn (done : List PayloadTransfer) (part : PayloadTransfer)
      (rest : List PayloadTransfer) :
      Ensures
        (fun pair => pair.2 = part ∧ Keeps done (part :: rest) pair.1)
        (releaseStreamed setup)
        (fun _ pair => Keeps (done ++ [pair.2]) rest pair.1)
        (fun pair => Keeps done (pair.2 :: rest) pair.1) :=
    releaseStreamed_draining rest part
  rintro ⟨supply, transfers⟩ answers draining
  have finished :=
    Call.Ensures.eachPart turn transfers (supply, transfers) answers
      ⟨rfl, draining⟩
  unfold releaseStreamedStaging
  generalize eachPart (releaseStreamed setup) (supply, transfers)
    answers = outcome at finished ⊢
  rcases outcome with ⟨error | value, ⟨after, changed⟩, left⟩
  · obtain ⟨done, rest, -, kept⟩ := finished
    exact Draining.steady kept
  · exact Draining.steady finished

end Aeon.Transport
