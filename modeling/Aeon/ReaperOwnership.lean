import Aeon.SupplyOwnership

namespace Aeon.Transport

open Aeon.Registry
open Call (Ensures ret write)

/-!
# The reaper and the ownership of slots

`reap_registry_transfers` walks the table by index and may erase the record it
stands at.  Before it does, every slot the record names has been freed.
-/

variable
    {allowed : Reads → Prop}
    {filling : Filling}
    {setup : SupplySetup}
    {slot : Nat}

/-- The reaper stands at a record. -/
structure Reaping
    (setup : SupplySetup)
    (allowed : Reads → Prop)
    (filling : Filling)
    (index : Nat)
    (transfer : PendingTransfer)
    (supply : Supply) : Prop where
  steady : Steady setup (onReads allowed) filling supply
  here : supply.transfers[index]? = some transfer

/-- None of a record's slots is in use. -/
def Spent
    (transfer : PendingTransfer)
    (supply : Supply) : Prop :=
  ∀ slot ∈ transfer.stagingSlots, supply.slots slot = .available

namespace Reaping

variable
    {supply : Supply}
    {index : Nat}
    {transfer : PendingTransfer}

section

variable
    (reaping : Reaping setup allowed filling index transfer supply)

include reaping

theorem settled :
    Settled supply.slots transfer :=
  reaping.steady.owned.settled transfer
    (List.mem_of_getElem? reaping.here)

theorem clear
    (named : slot ∈ transfer.stagingSlots) :
    Clear transfer.operationId slot supply :=
  reaping.steady.owned.clear_of_mem (List.mem_of_getElem? reaping.here) named

theorem onRegistry
    {registry : ExpertRegistry}
    (grows :
      supply.registry.nextOperationId ≤ registry.nextOperationId) :
    Reaping setup allowed filling index transfer
      { supply with registry := registry } :=
  ⟨reaping.steady.onRegistry grows, reaping.here⟩

theorem free
    (named : slot ∈ transfer.stagingSlots)
    (idle : slot ∉ filling.slots) :
    Reaping setup allowed filling index transfer
      (supply.setSlot transfer.operationId slot .available) :=
  ⟨reaping.steady.free idle (reaping.clear named), reaping.here⟩

theorem updateAt
    {change : PendingTransfer → PendingTransfer}
    (same : (change transfer).operationId = transfer.operationId)
    (names : (change transfer).stagingSlots = transfer.stagingSlots)
    (settled : Settled supply.slots (change transfer)) :
    Reaping setup allowed filling index (change transfer)
      (supply.updateAt index change) := by
  obtain ⟨leading, trailing, split, changed, -⟩ :=
    Supply.index_split reaping.here
  refine ⟨⟨?_, reaping.steady.framed, fun filled listed => ?_,
    reaping.steady.counted⟩, ?_⟩
  · exact reaping.steady.owned.rewrite split (changed change) rfl rfl rfl
      same names settled
  · exact (reaping.steady.fills filled listed).replace split (changed change)
      rfl same (names ▸ List.Subset.refl _)
  · simp [Supply.updateAt, reaping.here]

/-- A transfer that is spent can be erased. -/
theorem eraseAt
    (spent : Spent transfer supply) :
    Steady setup (onReads allowed) filling (supply.eraseAt index) := by
  obtain ⟨leading, trailing, split, -, erased⟩ :=
    Supply.index_split reaping.here
  refine ⟨?_, reaping.steady.framed, fun filled listed => ?_,
    reaping.steady.counted⟩
  · exact reaping.steady.owned.erase split erased rfl rfl rfl spent
  · have fills := reaping.steady.fills filled listed
    refine fills.split split rfl ?_ fun names => ?_
    · rw [erased]
      exact fun other => List.mem_append.mpr
    · have free := spent filled.2 names
      rw [fills.1] at free
      contradiction

theorem demotion_idle
    (uses : transfer.demotionUsesStaging = true)
    (named : transfer.demotionStagingIdx = some slot) :
    slot ∉ filling.slots := by
  refine reaping.steady.not_filling ?_
  rcases reaping.settled.demoted uses slot named with state | ⟨-, state⟩ <;>
    rw [state] <;> decide

end

end Reaping

/-- No demotion slot of the record is in use. -/
def DemotionSpent
    (transfer : PendingTransfer)
    (supply : Supply) : Prop :=
  transfer.demotionUsesStaging = true →
    ∀ slot,
      transfer.demotionStagingIdx = some slot →
        supply.slots slot = .available

section Reap

variable
    {index : Nat}
    {transfer : PendingTransfer}

theorem onRegistry_reaping
    {Value : Type}
    {call : ExpertRegistry → Outcome Value}
    (numbered :
      ∀ registry,
        (call registry).registry.nextOperationId =
          registry.nextOperationId)
    {More : Supply → Prop}
    (stable :
      ∀ supply registry,
        More supply → More { supply with registry := registry }) :
    Ensures
      (fun supply =>
        Reaping setup allowed filling index transfer supply ∧ More supply)
      (onRegistry call)
      (fun _ supply =>
        Reaping setup allowed filling index transfer supply ∧ More supply)
      (Steady setup (onReads allowed) filling) := by
  refine Call.Ensures.weaken
    (onRegistry_ensures
      (fun registry => Nat.le_of_eq (numbered registry).symm) ?_)
    (fun _ before => before) (fun _ _ after => after)
    (fun _ after => after.1.steady)
  rintro supply registry grows ⟨reaping, more⟩
  exact ⟨reaping.onRegistry grows, stable supply registry more⟩

theorem landStagedDemotion_reaping :
    Ensures (Reaping setup allowed filling index transfer)
      (landStagedDemotion setup transfer)
      (fun _ supply =>
        Reaping setup allowed filling index transfer supply ∧
          DemotionSpent transfer supply)
      (Steady setup (onReads allowed) filling) := by
  refine .branch (fun uses => ?_) (fun unused => ?_)
  · refine .andThen (.leaves hostSlotPtr_leaves
      fun _ reaping => reaping.steady) fun _ => ?_
    refine .andThen (.leaves validateSlot_leaves
      fun _ reaping => reaping.steady) fun _ => ?_
    refine (releaseAfterGpuTransfer_ensures ?_).weaken
      (fun _ reaping => reaping) (fun _ _ after => after)
      (fun _ reaping => reaping.steady)
    intro supply reaping _
    obtain ⟨slot, named⟩ :=
      Option.isSome_iff_exists.mp (reaping.settled.routed ▸ uses)
    simp only [castSlot, named, Option.getD_some]
    refine ⟨reaping.free (PendingTransfer.mem_stagingSlots.mpr
      (Or.inr ⟨uses, named⟩)) (reaping.demotion_idle uses named), ?_⟩
    rintro - target same
    rw [named] at same
    cases same
    exact Function.update_self _ _ _
  · exact .ret fun _ reaping =>
      ⟨reaping, fun uses => absurd uses unused⟩

theorem dropStagedDemotion_reaping :
    Ensures (Reaping setup allowed filling index transfer)
      (dropStagedDemotion setup transfer)
      (fun _ supply =>
        Reaping setup allowed filling index transfer supply ∧
          DemotionSpent transfer supply)
      (Steady setup (onReads allowed) filling) := by
  refine .branch (fun uses => ?_) (fun unused => ?_)
  · refine releaseAfterFailure_ensures ?_ fun _ _ reaping => reaping.steady
    intro supply reaping
    obtain ⟨slot, named⟩ :=
      Option.isSome_iff_exists.mp (reaping.settled.routed ▸ uses)
    simp only [castSlot, named, Option.getD_some]
    refine ⟨reaping.free (PendingTransfer.mem_stagingSlots.mpr
      (Or.inr ⟨uses, named⟩)) (reaping.demotion_idle uses named), ?_⟩
    rintro - target same
    rw [named] at same
    cases same
    exact Function.update_self _ _ _
  · exact .ret fun _ reaping =>
      ⟨reaping, fun uses => absurd uses unused⟩

/-- The record once its demotion's event is destroyed. -/
def PendingTransfer.demotionOver
    (transfer : PendingTransfer) : PendingTransfer :=
  { transfer with demotionEvent := false }

theorem destroyDemotionEvent_reaping :
    Ensures
      (fun supply =>
        Reaping setup allowed filling index transfer supply ∧
          DemotionSpent transfer supply)
      (do
        write fun supply =>
          supply.updateAt index PendingTransfer.demotionOver
        ret true : SupplyCall Bool)
      (fun _ supply =>
        Reaping setup allowed filling index transfer.demotionOver supply)
      (Steady setup (onReads allowed) filling) := by
  refine .andThen (.write ?_) fun _ => .ret fun _ reaping => reaping
  rintro supply ⟨reaping, spent⟩
  have settled := reaping.settled
  refine reaping.updateAt rfl rfl
    ⟨settled.failed, settled.submitted, ?_, settled.routed⟩
  exact fun uses slot named => Or.inl (spent uses slot named)

/-- The demotion of a transfer is over before its request. -/
theorem reapDemotion_reaping :
    Ensures (Reaping setup allowed filling index transfer)
      (reapDemotion setup index transfer)
      (fun ready supply =>
        ∃ current,
          Reaping setup allowed filling index current supply ∧
            (current = transfer ∨ current = transfer.demotionOver) ∧
            (ready = true → current.demotionEvent = false))
      (Steady setup (onReads allowed) filling) := by
  have eventOver :
      Ensures
        (fun supply =>
          Reaping setup allowed filling index transfer supply ∧
            DemotionSpent transfer supply)
        (do
          write fun supply =>
            supply.updateAt index PendingTransfer.demotionOver
          ret true : SupplyCall Bool)
        (fun ready supply =>
          ∃ current,
            Reaping setup allowed filling index current supply ∧
              (current = transfer ∨ current = transfer.demotionOver) ∧
              (ready = true → current.demotionEvent = false))
        (Steady setup (onReads allowed) filling) :=
    destroyDemotionEvent_reaping.weaken (fun _ before => before)
      (fun _ _ reaping => ⟨_, reaping, Or.inr rfl, fun _ => rfl⟩)
      (fun _ steady => steady)
  refine .branch (fun pending => .ask fun answer => ?_) (fun settled => ?_)
  · have waits :
        Ensures (Reaping setup allowed filling index transfer)
          (ret false : SupplyCall Bool)
          (fun ready supply =>
            ∃ current,
              Reaping setup allowed filling index current supply ∧
                (current = transfer ∨ current = transfer.demotionOver) ∧
                (ready = true → current.demotionEvent = false))
          (Steady setup (onReads allowed) filling) :=
      .ret fun _ reaping => ⟨transfer, reaping, Or.inl rfl, nofun⟩
    cases answer with
    | ready =>
      exact .andThen landStagedDemotion_reaping fun _ =>
        .andThen (onRegistry_reaping
          (fun registry => (Frame.refl 0 registry).completeDemotion.nextOperationId)
          fun _ _ spent => spent) fun _ => eventOver
    | failed =>
      exact .andThen dropStagedDemotion_reaping fun _ =>
        .andThen (onRegistry_reaping
          (fun registry => (Frame.refl 0 registry).failDemotion.nextOperationId)
          fun _ _ spent => spent) fun _ => eventOver
    | notReady => exact waits
    | taken count => exact waits
    | completes which result => exact waits
    | ringFailed => exact waits
  · refine .ret fun _ reaping => ⟨transfer, reaping, Or.inl rfl, fun _ => ?_⟩
    simpa using settled

theorem Reaping.spent
    {supply : Supply}
    (reaping : Reaping setup allowed filling index transfer supply)
    (eventOver : transfer.demotionEvent = false)
    (freed :
      transfer.hasStaging = true →
        supply.slots transfer.stagingIdx = .available) :
    Spent transfer supply := by
  intro slot named
  rcases PendingTransfer.mem_stagingSlots.mp named with
    ⟨staged, rfl⟩ | ⟨uses, target⟩
  · exact freed staged
  · rcases reaping.settled.demoted uses slot target with free | ⟨pending, -⟩
    · exact free
    · rw [eventOver] at pending
      contradiction

/-- The last writes of a turn that retires the record. -/
theorem eraseAt_reaping
    {Threw : Supply → Prop} :
    Ensures
      (fun supply =>
        Reaping setup allowed filling index transfer supply ∧
          Spent transfer supply)
      (do
        write fun supply => supply.eraseAt index
        ret true : SupplyCall Bool)
      (fun _ => Steady setup (onReads allowed) filling)
      Threw :=
  .andThen (.write fun _ holds => holds.1.eraseAt holds.2)
    fun _ => .ret fun _ steady => steady

theorem Reaping.submitted_idle
    {supply : Supply}
    (reaping : Reaping setup allowed filling index transfer supply)
    (submitted : transfer.h2dSubmitted = true)
    (staged : transfer.hasStaging = true) :
    transfer.stagingIdx ∉ filling.slots := by
  refine reaping.steady.not_filling ?_
  rcases reaping.settled.submitted staged submitted with state | state <;>
    rw [state] <;> decide

section

variable
    (submitted : transfer.h2dSubmitted = true)
    (eventOver : transfer.demotionEvent = false)

include submitted eventOver

theorem releaseLanded_reaping :
    Ensures (Reaping setup allowed filling index transfer)
      (releaseLanded setup transfer)
      (fun _ supply =>
        Reaping setup allowed filling index transfer supply ∧
          Spent transfer supply)
      (Steady setup (onReads allowed) filling) := by
  refine .branch (fun staged => ?_) (fun unstaged => ?_)
  · refine (releaseIfCopying_ensures ?_ ?_).weaken
      (fun _ reaping => reaping) (fun _ _ after => after)
      (fun _ reaping => reaping.steady)
    · intro supply reaping _
      have freed := reaping.free
        (PendingTransfer.mem_stagingSlots.mpr (Or.inl ⟨staged, rfl⟩))
        (reaping.submitted_idle submitted staged)
      exact ⟨freed, freed.spent eventOver fun _ => Function.update_self _ _ _⟩
    · intro supply reaping other
      refine ⟨reaping, reaping.spent eventOver fun _ => ?_⟩
      rcases reaping.settled.submitted staged submitted with free | copying
      · exact free
      · exact absurd copying other
  · exact .ret fun _ reaping =>
      ⟨reaping, reaping.spent eventOver fun staged => absurd staged unstaged⟩

theorem releaseFailed_reaping :
    Ensures (Reaping setup allowed filling index transfer)
      (releaseFailed setup transfer)
      (fun _ supply =>
        Reaping setup allowed filling index transfer supply ∧
          Spent transfer supply)
      (Steady setup (onReads allowed) filling) := by
  refine .branch (fun staged => ?_) (fun unstaged => ?_)
  · refine releaseAfterFailure_ensures ?_ fun _ _ reaping => reaping.steady
    intro supply reaping
    have freed := reaping.free
      (PendingTransfer.mem_stagingSlots.mpr (Or.inl ⟨staged, rfl⟩))
      (reaping.submitted_idle submitted staged)
    exact ⟨freed, freed.spent eventOver fun _ => Function.update_self _ _ _⟩
  · exact .ret fun _ reaping =>
      ⟨reaping, reaping.spent eventOver fun staged => absurd staged unstaged⟩

end

theorem reapRequest_reaping
    (ready : Bool)
    (eventOver : ready = true → transfer.demotionEvent = false) :
    Ensures (Reaping setup allowed filling index transfer)
      (reapRequest setup index transfer ready)
      (fun _ => Steady setup (onReads allowed) filling)
      (Steady setup (onReads allowed) filling) := by
  refine .branch (fun failed => ?_) (fun _ => ?_)
  · simp only [Bool.and_eq_true, Bool.not_eq_true'] at failed
    refine .branch (fun isReady => ?_) (fun _ => ?_)
    · have spent (supply : Supply)
          (reaping : Reaping setup allowed filling index transfer supply) :
          Spent transfer supply :=
        reaping.spent (eventOver isReady) fun staged =>
          reaping.settled.failed staged failed.1 failed.2
      have failing :
          Ensures (Reaping setup allowed filling index transfer)
            (onRegistry fun registry =>
              registry.failRequest transfer.operationId)
            (fun _ supply =>
              Reaping setup allowed filling index transfer supply ∧
                Spent transfer supply)
            (Steady setup (onReads allowed) filling) :=
        (onRegistry_reaping
          (fun registry => (Frame.refl 0 registry).failRequest.nextOperationId)
          fun _ _ more => more).weaken
            (fun supply reaping => ⟨reaping, spent supply reaping⟩)
            (fun _ _ after => after) (fun _ steady => steady)
      exact .andThen failing fun _ => eraseAt_reaping
    · exact .ret fun _ reaping => reaping.steady
  · refine .branch (fun landed => ?_) (fun _ => ?_)
    · simp only [Bool.and_eq_true] at landed
      have submitted := landed.1.1
      have finished := eventOver landed.2
      refine .ask fun answer => ?_
      cases answer with
      | ready =>
        refine .andThen ?_ fun _ =>
          .andThen (releaseLanded_reaping submitted finished)
            fun _ => eraseAt_reaping
        exact (onRegistry_reaping
          (fun registry => (Frame.refl 0 registry).completeRequest.nextOperationId)
          fun _ _ (more : True) => more).weaken
            (fun _ reaping => ⟨reaping, trivial⟩)
            (fun _ _ after => after.1) (fun _ steady => steady)
      | failed =>
        exact .andThen (releaseFailed_reaping submitted finished)
          fun _ => .andThen (onRegistry_reaping
            (fun registry => (Frame.refl 0 registry).failRequest.nextOperationId)
            fun _ _ spent => spent) fun _ => eraseAt_reaping
      | notReady => exact .ret fun _ reaping => reaping.steady
      | taken count => exact .ret fun _ reaping => reaping.steady
      | completes which result =>
        exact .ret fun _ reaping => reaping.steady
      | ringFailed => exact .ret fun _ reaping => reaping.steady
    · exact .ret fun _ reaping => reaping.steady

/-- One turn of the reaper keeps the slots owned, -/
theorem reapTurn_steady :
    Ensures (Steady setup (onReads allowed) filling)
      (reapTurn setup index)
      (fun _ => Steady setup (onReads allowed) filling)
      (Steady setup (onReads allowed) filling) := by
  refine .read fun current => ?_
  cases here : current.transfers[index]? with
  | none => exact .ret fun _ holds => holds.1
  | some transfer =>
    have standing :
        Ensures
          (fun supply =>
            Steady setup (onReads allowed) filling supply ∧
              supply = current)
          (reapDemotion setup index transfer)
          (fun ready supply =>
            ∃ current,
              Reaping setup allowed filling index current supply ∧
                (current = transfer ∨ current = transfer.demotionOver) ∧
                (ready = true → current.demotionEvent = false))
          (Steady setup (onReads allowed) filling) := by
      refine reapDemotion_reaping.weaken ?_ (fun _ _ after => after)
        (fun _ steady => steady)
      rintro supply ⟨steady, rfl⟩
      exact ⟨steady, here⟩
    refine .andThen standing fun ready => ?_
    -- the request part reads nothing that the demotion part wrote
    rintro supply answers ⟨record, reaping, same, eventOver⟩
    have turn :
        reapRequest setup index transfer ready =
          reapRequest setup index record ready := by
      rcases same with rfl | rfl <;> rfl
    rw [turn]
    exact reapRequest_reaping ready eventOver supply answers reaping

end Reap

/-- The reaper's loop. -/
theorem reapFrom_steady
    (remaining index : Nat) :
    Ensures (Steady setup (onReads allowed) filling)
      (reapFrom setup remaining index)
      (fun _ => Steady setup (onReads allowed) filling)
      (Steady setup (onReads allowed) filling) := by
  induction remaining generalizing index with
  | zero => exact .ret fun _ steady => steady
  | succ remaining ih =>
    exact .andThen reapTurn_steady fun _ => ih _

/-- and so does the reaper. -/
theorem reapRegistryTransfers_steady :
    Ensures (Steady setup (onReads allowed) filling)
      (reapRegistryTransfers setup)
      (fun _ => Steady setup (onReads allowed) filling)
      (Steady setup (onReads allowed) filling) :=
  .read fun _ => (reapFrom_steady _ _).weaken (fun _ holds => holds.1)
    (fun _ _ steady => steady) (fun _ steady => steady)

end Aeon.Transport
