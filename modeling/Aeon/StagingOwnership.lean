import Aeon.TieredExpertSupply
import Mathlib.Data.List.Flatten
import Mathlib.Data.List.Nodup
import Mathlib.Data.List.Pairwise

namespace Aeon.Transport

open Function (onFun update update_of_ne update_self)

/-!
# Who owns a staging slot

A slot in use belongs to the transfer whose record names it.  `Owned` says that
the records share no slot, that every slot in use is named, and that a record about
to be erased names no slot in use.  This module shows what one write does to it:
to a slot, to a record, to the table.
-/

/-- The staging slots the records name. -/
def Supply.named (supply : Supply) : List Nat :=
  supply.transfers.flatMap PendingTransfer.stagingSlots

/-- What a record's flags say about the slots it names. -/
structure Settled
    (slots : Nat → SlotState)
    (transfer : PendingTransfer) : Prop where
  failed :
    transfer.hasStaging = true →
      transfer.requestFailed = true →
        transfer.h2dSubmitted = false →
          slots transfer.stagingIdx = .available
  submitted :
    transfer.hasStaging = true →
      transfer.h2dSubmitted = true →
        slots transfer.stagingIdx = .available ∨
          slots transfer.stagingIdx = .gpuTransferPending
  demoted :
    transfer.demotionUsesStaging = true →
      ∀ slot,
        transfer.demotionStagingIdx = some slot →
          slots slot = .available ∨
            (transfer.demotionEvent = true ∧
              slots slot = .gpuTransferPending)
  routed :
    transfer.demotionUsesStaging = transfer.demotionStagingIdx.isSome

/-- The ownership invariant. -/
structure Owned
    (setup : SupplySetup)
    (supply : Supply) : Prop where
  issued :
    ∀ transfer ∈ supply.transfers,
      transfer.operationId < supply.registry.nextOperationId
  distinct : (supply.transfers.map PendingTransfer.operationId).Nodup
  apart : supply.named.Nodup
  held : ∀ slot, supply.slots slot ≠ .available → slot ∈ supply.named
  ranged :
    ∀ slot, supply.slots slot ≠ .available → slot < setup.slotCount
  settled : ∀ transfer ∈ supply.transfers, Settled supply.slots transfer
  kept : supply.trespasses = []

/-- No record of another operation names the slot. -/
def Clear
    (operationId slot : Nat)
    (supply : Supply) : Prop :=
  ∀ transfer ∈ supply.transfers,
    transfer.operationId ≠ operationId → slot ∉ transfer.stagingSlots

theorem PendingTransfer.mem_stagingSlots
    {transfer : PendingTransfer}
    {slot : Nat} :
    slot ∈ transfer.stagingSlots ↔
      (transfer.hasStaging = true ∧ slot = transfer.stagingIdx) ∨
        (transfer.demotionUsesStaging = true ∧
          transfer.demotionStagingIdx = some slot) := by
  unfold stagingSlots
  cases transfer.hasStaging <;> cases transfer.demotionUsesStaging <;>
    simp [Option.mem_toList]

theorem Supply.mem_named
    {supply : Supply}
    {slot : Nat} :
    slot ∈ supply.named ↔
      ∃ transfer ∈ supply.transfers, slot ∈ transfer.stagingSlots := by
  simp [named, List.mem_flatMap]

/-! ## Slots -/

namespace Settled

variable
    {slots : Nat → SlotState}
    {transfer : PendingTransfer}
    {slot : Nat}

/-- A write to a slot the record does not name changes nothing for it. -/
theorem elsewhere
    (settled : Settled slots transfer)
    (unnamed : slot ∉ transfer.stagingSlots)
    (state : SlotState) :
    Settled (update slots slot state) transfer := by
  rw [PendingTransfer.mem_stagingSlots, not_or] at unnamed
  constructor
  · intro staged failed unsubmitted
    have other : transfer.stagingIdx ≠ slot := fun same =>
      unnamed.1 ⟨staged, same.symm⟩
    rw [update_of_ne other]
    exact settled.failed staged failed unsubmitted
  · intro staged submitted
    have other : transfer.stagingIdx ≠ slot := fun same =>
      unnamed.1 ⟨staged, same.symm⟩
    rw [update_of_ne other]
    exact settled.submitted staged submitted
  · intro staged target named
    have other : target ≠ slot := by
      rintro rfl
      exact unnamed.2 ⟨staged, named⟩
    rw [update_of_ne other]
    exact settled.demoted staged target named
  · exact settled.routed

/-- Freeing a slot agrees with every record. -/
theorem free
    (settled : Settled slots transfer)
    (slot : Nat) :
    Settled (update slots slot .available) transfer := by
  constructor
  · intro staged failed unsubmitted
    rcases eq_or_ne transfer.stagingIdx slot with same | other
    · rw [same, update_self]
    · rw [update_of_ne other]
      exact settled.failed staged failed unsubmitted
  · intro staged submitted
    rcases eq_or_ne transfer.stagingIdx slot with same | other
    · rw [same, update_self]
      exact Or.inl rfl
    · rw [update_of_ne other]
      exact settled.submitted staged submitted
  · intro staged target named
    rcases eq_or_ne target slot with same | other
    · rw [same, update_self]
      exact Or.inl rfl
    · rw [update_of_ne other]
      exact settled.demoted staged target named
  · exact settled.routed

end Settled

namespace Owned

variable
    {setup : SupplySetup}
    {supply : Supply}
    {operationId slot : Nat}

section

variable
    (owned : Owned setup supply)

include owned

theorem of_same
    {after : Supply}
    (issued :
      supply.registry.nextOperationId ≤ after.registry.nextOperationId)
    (slots : after.slots = supply.slots)
    (transfers : after.transfers = supply.transfers)
    (trespasses : after.trespasses = supply.trespasses) :
    Owned setup after := by
  have named : after.named = supply.named := by
    unfold Supply.named
    rw [transfers]
  constructor
  · rw [transfers]
    intro transfer listed
    have before := owned.issued transfer listed
    omega
  · rw [transfers]
    exact owned.distinct
  · rw [named]
    exact owned.apart
  · rw [slots, named]
    exact owned.held
  · rw [slots]
    exact owned.ranged
  · rw [slots, transfers]
    exact owned.settled
  · rw [trespasses]
    exact owned.kept

theorem setSlot
    {state : SlotState}
    (clear : Clear operationId slot supply)
    (named : state ≠ .available → slot ∈ supply.named)
    (ranged : state ≠ .available → slot < setup.slotCount)
    (settled :
      ∀ transfer ∈ supply.transfers,
        transfer.operationId = operationId →
          Settled (update supply.slots slot state) transfer) :
    Owned setup (supply.setSlot operationId slot state) := by
  have untouched : supply.touchesOther operationId slot = false := by
    unfold Supply.touchesOther
    rw [Bool.and_eq_false_iff]
    right
    rw [List.any_eq_false]
    intro transfer listed
    simp only [Bool.and_eq_true, decide_eq_true_eq, not_and]
    exact clear transfer listed
  constructor
  · exact owned.issued
  · exact owned.distinct
  · exact owned.apart
  · intro target used
    change update supply.slots slot state target ≠ .available at used
    change target ∈ supply.named
    rcases eq_or_ne target slot with rfl | other
    · rw [update_self] at used
      exact named used
    · rw [update_of_ne other] at used
      exact owned.held target used
  · intro target used
    change update supply.slots slot state target ≠ .available at used
    rcases eq_or_ne target slot with rfl | other
    · rw [update_self] at used
      exact ranged used
    · rw [update_of_ne other] at used
      exact owned.ranged target used
  · intro transfer listed
    by_cases own : transfer.operationId = operationId
    · exact settled transfer listed own
    · exact (owned.settled transfer listed).elsewhere
        (clear transfer listed own) state
  · simp only [Supply.setSlot, untouched, Bool.false_eq_true, if_false]
    exact owned.kept

theorem free
    (clear : Clear operationId slot supply) :
    Owned setup (supply.setSlot operationId slot .available) :=
  owned.setSlot clear (fun used => absurd rfl used)
    (fun used => absurd rfl used)
    (fun transfer listed _ => (owned.settled transfer listed).free slot)

theorem clear_of_mem
    {transfer : PendingTransfer}
    (listed : transfer ∈ supply.transfers)
    (named : slot ∈ transfer.stagingSlots) :
    Clear transfer.operationId slot supply := by
  intro other otherListed different shared
  have symmetric :
      Std.Symm (onFun List.Disjoint PendingTransfer.stagingSlots) :=
    ⟨fun _ _ disjoint _ first second => disjoint second first⟩
  have separate :=
    (List.nodup_flatMap.mp owned.apart).2.forall otherListed listed
      (fun same => different (congrArg PendingTransfer.operationId same))
  exact separate shared named

theorem available_of_unnamed
    (unnamed : slot ∉ supply.named) :
    supply.slots slot = .available := by
  by_contra used
  exact unnamed (owned.held slot used)

end

end Owned

/-! ## Records -/

namespace Supply

variable
    {supply : Supply}
    {operationId index : Nat}
    {transfer : PendingTransfer}

/-- The table around the record that `find` returns. -/
theorem find_split
    (found : supply.find operationId = some transfer) :
    transfer.operationId = operationId ∧
      ∃ leading trailing,
        supply.transfers = leading ++ transfer :: trailing ∧
          ∀ change,
            (supply.update operationId change).transfers =
              leading ++ change transfer :: trailing := by
  unfold find at found
  unfold update
  simp only
  generalize supply.transfers = transfers at found ⊢
  induction transfers with
  | nil => simp at found
  | cons first rest ih =>
    rw [List.find?_cons] at found
    by_cases here : first.operationId = operationId
    · simp only [here, decide_true] at found
      cases found
      refine ⟨here, [], rest, rfl, fun change => ?_⟩
      simp [updateFirst, here]
    · simp only [here, decide_false] at found
      obtain ⟨own, leading, trailing, split, changed⟩ :=
        ih found
      refine ⟨own, first :: leading, trailing, by simp [split],
        fun change => ?_⟩
      simp [updateFirst, here, changed change]

/-- The table around the record at an index. -/
theorem index_split
    (found : supply.transfers[index]? = some transfer) :
    ∃ leading trailing,
      supply.transfers = leading ++ transfer :: trailing ∧
        (∀ change,
          (supply.updateAt index change).transfers =
            leading ++ change transfer :: trailing) ∧
          (supply.eraseAt index).transfers = leading ++ trailing := by
  unfold updateAt eraseAt
  simp only
  generalize supply.transfers = transfers at found ⊢
  induction transfers generalizing index with
  | nil => simp at found
  | cons first rest ih =>
    cases index with
    | zero =>
      simp only [List.getElem?_cons_zero, Option.some.injEq] at found
      subst found
      exact ⟨[], rest, rfl, fun change => rfl, rfl⟩
    | succ index =>
      simp only [List.getElem?_cons_succ] at found
      obtain ⟨leading, trailing, split, changed, erased⟩ :=
        ih found
      refine ⟨first :: leading, trailing, by simp [split],
        fun change => ?_, ?_⟩
      · simp [changed change]
      · simp [erased]

end Supply

namespace Owned

variable
    {setup : SupplySetup}
    {supply after : Supply}
    {leading trailing : List PendingTransfer}
    {transfer next : PendingTransfer}

section

variable
    (owned : Owned setup supply)
    (split : supply.transfers = leading ++ transfer :: trailing)
    (changed : after.transfers = leading ++ next :: trailing)
    (registry : after.registry = supply.registry)
    (slots : after.slots = supply.slots)
    (trespasses : after.trespasses = supply.trespasses)
    (same : next.operationId = transfer.operationId)

include owned split changed registry slots trespasses same

/-- A record replaced by another record of the same operation. -/
theorem replace
    (apart : after.named.Nodup)
    (covers :
      ∀ slot ∈ transfer.stagingSlots,
        supply.slots slot ≠ .available → slot ∈ next.stagingSlots)
    (settled : Settled supply.slots next) :
    Owned setup after := by
  constructor
  · rw [changed, registry]
    intro other listed
    have before := owned.issued
    rw [split] at before
    rcases List.mem_append.mp listed with first | second
    · exact before other (List.mem_append_left _ first)
    · rcases List.mem_cons.mp second with rfl | last
      · rw [same]
        exact before transfer (by simp)
      · exact before other (by simp [last])
  · have before := owned.distinct
    rw [split] at before
    rw [changed]
    simpa [same] using before
  · exact apart
  · rw [slots]
    intro slot used
    have before := owned.held slot used
    rw [Supply.mem_named, split] at before
    rw [Supply.mem_named, changed]
    obtain ⟨other, listed, named⟩ := before
    rcases List.mem_append.mp listed with first | second
    · exact ⟨other, List.mem_append_left _ first, named⟩
    · rcases List.mem_cons.mp second with rfl | last
      · exact ⟨next, by simp, covers slot named used⟩
      · exact ⟨other, by simp [last], named⟩
  · rw [slots]
    exact owned.ranged
  · rw [slots, changed]
    intro other listed
    have before := owned.settled
    rw [split] at before
    rcases List.mem_append.mp listed with first | second
    · exact before other (List.mem_append_left _ first)
    · rcases List.mem_cons.mp second with rfl | last
      · exact settled
      · exact before other (by simp [last])
  · rw [trespasses]
    exact owned.kept

theorem rewrite
    (names : next.stagingSlots = transfer.stagingSlots)
    (settled : Settled supply.slots next) :
    Owned setup after := by
  have named : after.named = supply.named := by
    unfold Supply.named
    rw [split, changed]
    simp [names]
  refine owned.replace split changed registry slots trespasses same ?_ ?_
    settled
  · rw [named]
    exact owned.apart
  · intro slot listed _
    rw [names]
    exact listed

end

theorem erase
    (owned : Owned setup supply)
    (split : supply.transfers = leading ++ transfer :: trailing)
    (changed : after.transfers = leading ++ trailing)
    (registry : after.registry = supply.registry)
    (slots : after.slots = supply.slots)
    (trespasses : after.trespasses = supply.trespasses)
    (freed :
      ∀ slot ∈ transfer.stagingSlots, supply.slots slot = .available) :
    Owned setup after := by
  have listed :
      ∀ other ∈ after.transfers, other ∈ supply.transfers := by
    rw [split, changed]
    intro other listed
    rcases List.mem_append.mp listed with first | second
    · exact List.mem_append_left _ first
    · exact List.mem_append_right _ (List.mem_cons_of_mem _ second)
  constructor
  · rw [registry]
    exact fun other present => owned.issued other (listed other present)
  · have before := owned.distinct
    rw [split] at before
    rw [changed]
    exact before.sublist
      ((List.append_sublist_append_left _ |>.mpr
        (List.sublist_cons_self _ _)).map _)
  · have before := owned.apart
    unfold Supply.named at before ⊢
    rw [split] at before
    rw [changed]
    exact before.sublist
      (((List.append_sublist_append_left _).mpr
        (List.sublist_cons_self _ _)).flatMap _)
  · rw [slots]
    intro slot used
    have before := owned.held slot used
    rw [Supply.mem_named, split] at before
    rw [Supply.mem_named, changed]
    obtain ⟨other, present, named⟩ := before
    rcases List.mem_append.mp present with first | second
    · exact ⟨other, List.mem_append_left _ first, named⟩
    · rcases List.mem_cons.mp second with rfl | last
      · exact absurd (freed slot named) used
      · exact ⟨other, List.mem_append_right _ last, named⟩
  · rw [slots]
    exact owned.ranged
  · rw [slots]
    exact fun other present => owned.settled other (listed other present)
  · rw [trespasses]
    exact owned.kept

end Owned

end Aeon.Transport
