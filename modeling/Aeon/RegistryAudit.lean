import Aeon.RegistryModes

namespace Aeon.Registry

/-!
# The audit passes

A registry that its placement accounts for passes `validate_invariants`: each scan
of the audit finds nothing.  So in a consistent state no audit of the code ever
throws, and a call ends by its own checks alone.
-/

open ExpertRegistry

variable
    {stranded : List Nat}
    {registry : ExpertRegistry}
    {place : Nat → Residency}

/-- The scan of the catalog finds nothing. -/
theorem Accounts.auditEntry_eq_none
    {gid : Nat}
    (accounts : Accounts stranded registry place none)
    (inside : gid < registry.totalExperts) :
    registry.auditEntry gid = none := by
  have fit := accounts.catalog.fits gid inside
  have inVram :
      ∀ slot, (place gid).vramSlot = some slot →
        slot < registry.vramCapacity ∧ registry.vramSlots slot = some gid := by
    intro slot here
    have held := accounts.vram.owned gid slot inside here
    exact ⟨(accounts.vram.owner slot gid held).2.1, held⟩
  have inHost :
      ∀ slot, (place gid).hostSlot = some slot →
        slot < registry.hostCapacityUsable ∧
          registry.hostSlots slot = some gid := by
    intro slot here
    have held := accounts.host.owned gid slot inside here
    exact ⟨(accounts.host.owner slot gid held).2.1, held⟩
  have claimed :
      ∀ operationId slot, (place gid).vramClaim = some (operationId, slot) →
        slot < registry.vramCapacity ∧
          registry.vramSlotReservations slot = operationId := by
    intro operationId slot claims
    obtain ⟨isReserved, nonzero⟩ :=
      accounts.vram.claimed gid operationId slot inside claims
    exact ⟨(accounts.vram.claimant slot (by omega)).1, isReserved⟩
  have numbered := accounts.operations.numbered gid
  unfold auditEntry
  simp only [fit.owner, fit.slotIdx, fit.operation, fit.gpuTransfer,
    fit.pendingSlotIdx]
  have idOf := fit.operationId
  cases here : place gid with
  | cold => simp
  | hot slot =>
    obtain ⟨bound, held⟩ := inVram slot (by rw [here]; rfl)
    simp [held, bound]
  | warm host shadow =>
    obtain ⟨bound, held⟩ := inHost host (by rw [here]; rfl)
    simp [held, bound]
  | reading op target =>
    rw [here] at idOf
    have nonzero := (numbered op inside (by rw [here]; rfl)).1
    rw [idOf op rfl]
    cases target with
    | none => simp [nonzero]
    | some slot =>
      obtain ⟨bound, isReserved⟩ := claimed op slot (by rw [here]; rfl)
      simp [nonzero, bound, isReserved]
  | promoting op host slot =>
    rw [here] at idOf
    have nonzero := (numbered op inside (by rw [here]; rfl)).1
    rw [idOf op rfl]
    obtain ⟨hostBound, held⟩ := inHost host (by rw [here]; rfl)
    obtain ⟨bound, isReserved⟩ := claimed op slot (by rw [here]; rfl)
    simp [nonzero, Nat.not_le.mpr hostBound, held, Nat.not_le.mpr bound,
      isReserved]
  | shadowing op host target =>
    rw [here] at idOf
    have nonzero := (numbered op inside (by rw [here]; rfl)).1
    rw [idOf op rfl]
    obtain ⟨hostBound, held⟩ := inHost host (by rw [here]; rfl)
    cases target with
    | none => simp [nonzero, hostBound, held]
    | some slot =>
      obtain ⟨bound, isReserved⟩ := claimed op slot (by rw [here]; rfl)
      simp [nonzero, Nat.not_le.mpr hostBound, held,
        Nat.not_le.mpr bound, isReserved]
  | demoting op slot destination =>
    rw [here] at idOf
    have nonzero := (numbered op inside (by rw [here]; rfl)).1
    rw [idOf op rfl]
    obtain ⟨bound, held⟩ := inVram slot (by rw [here]; rfl)
    simp [nonzero, bound, held]

section

variable
    (accounts : Accounts stranded registry place none)
    (slot : Nat)

include accounts slot

theorem Accounts.auditVramSlot_eq_none :
    registry.auditVramSlot slot = none := by
  unfold auditVramSlot
  cases held : registry.vramSlots slot with
  | some gid =>
    obtain ⟨inside, _, here⟩ := accounts.vram.owner slot gid held
    have fit := accounts.catalog.fits gid inside
    simp only [fit.owner, fit.slotIdx, fit.shadowVramSlot]
    rw [if_neg (by omega)]
    cases there : place gid <;> simp_all
  | none =>
    simp only
    by_cases isReserved : registry.vramSlotReservations slot = 0
    · simp [isReserved]
    · obtain ⟨_, ⟨gid, inside, claims⟩ | dangles⟩ :=
        accounts.vram.claimant slot isReserved
      · have fit := accounts.catalog.fits gid inside
        have idEq :=
          fit.operationId _ (Residency.incoming_of_vramClaim claims).2
        have claimant :
            registry.gids.any (fun other =>
              (registry.catalog other).operationId ==
                  registry.vramSlotReservations slot &&
                (registry.catalog other).pendingSlotIdx == some slot) =
              true := by
          rw [List.any_eq_true]
          refine ⟨gid, List.mem_range.mpr inside, ?_⟩
          rw [idEq, fit.pendingSlotIdx, claims]
          simp
        simp [claimant]
      · contradiction

theorem Accounts.auditHostSlot_eq_none :
    registry.auditHostSlot slot = none := by
  unfold auditHostSlot
  have bijective :
      ((registry.hostSlots slot).any fun gid =>
        decide (registry.totalExperts ≤ gid) ||
          (registry.catalog gid).owner != .warmHost ||
          (registry.catalog gid).slotIdx != some slot) = false := by
    cases held : registry.hostSlots slot with
    | none => rfl
    | some gid =>
      obtain ⟨inside, _, here⟩ := accounts.host.owner slot gid held
      have fit := accounts.catalog.fits gid inside
      simp only [Option.any_some, fit.owner, fit.slotIdx]
      cases there : place gid <;> simp_all
  rw [bijective]
  simp only [Bool.false_eq_true, if_false]
  by_cases isReserved : registry.hostSlotReservations slot = 0
  · simp [isReserved]
  · obtain ⟨gid, inside, claims⟩ := accounts.host.claimant slot isReserved
    have fit := accounts.catalog.fits gid inside
    have idEq :=
      fit.operationId _ (Residency.operation_of_hostClaim claims).1
    have claimant :
        registry.gids.any (fun other =>
          (registry.catalog other).operationId ==
              registry.hostSlotReservations slot &&
            ((registry.catalog other).slotIdx == some slot ||
              (registry.catalog other).operation == .demotionPending)) =
          true := by
      rw [List.any_eq_true]
      refine ⟨gid, List.mem_range.mpr inside, ?_⟩
      rw [idEq, fit.slotIdx, fit.operation]
      cases there : place gid with
      | demoting op source destination => simp
      | _ => simp_all
    simp [claimant]

end

theorem Accounts.auditShadowLru_eq_none
    {seen ranked : List Nat}
    (accounts : Accounts stranded registry place none)
    (listed : ∀ gid ∈ ranked, gid ∈ registry.shadowLru)
    (unique : ranked.Nodup)
    (unseen : ∀ gid ∈ ranked, gid ∉ seen) :
    registry.auditShadowLru seen ranked = none := by
  induction ranked generalizing seen with
  | nil => rfl
  | cons gid rest step =>
    obtain ⟨absent, uniqueRest⟩ := List.nodup_cons.mp unique
    obtain ⟨inside, host, slot, shadowed, slotEq⟩ :=
      accounts.shadow_of_ranked (listed gid List.mem_cons_self)
    have held :=
      accounts.vram.owned gid slot inside (by rw [shadowed]; rfl)
    have bound := (accounts.vram.owner slot gid held).2.1
    have isWarm : (registry.catalog gid).owner = .warmHost := by
      rw [(accounts.catalog.fits gid inside).owner, shadowed]
      rfl
    have notSeen := unseen gid List.mem_cons_self
    unfold auditShadowLru
    rw [if_neg (by simp [notSeen, inside])]
    simp only [slotEq]
    rw [if_neg (by simp [isWarm, held, bound])]
    apply step
    · exact fun other present => listed other (List.mem_cons_of_mem _ present)
    · exact uniqueRest
    · intro other present
      rw [List.mem_cons, not_or]
      refine ⟨?_, unseen other (List.mem_cons_of_mem _ present)⟩
      rintro rfl
      exact absent present

theorem Accounts.auditShadowEntry_eq_none
    {gid : Nat}
    (accounts : Accounts stranded registry place none)
    (inside : gid < registry.totalExperts) :
    registry.auditShadowEntry gid = none := by
  have fit := accounts.catalog.fits gid inside
  have mirrored := accounts.marks.mirrored gid inside
  have listed :
      (place gid).isShadowed = true → gid ∈ registry.shadowLru := by
    intro shadowed
    rw [accounts.ranks.shadow.mem_iff]
    exact ⟨inside, shadowed⟩
  unfold auditShadowEntry
  simp only [fit.shadowVramSlot, fit.warmShadow, fit.operation, mirrored]
  cases here : place gid with
  | warm host shadow =>
    cases shadow with
    | none => simp
    | some slot => simp [listed (by rw [here]; rfl)]
  | _ => simp

/-- The scan of a recency list finds nothing. -/
theorem Accounts.auditLru_eq_none
    {tier : ExpertTier}
    {seen ranked : List Nat}
    (accounts : Accounts stranded registry place none)
    (resident :
      ∀ gid ∈ ranked, gid < registry.totalExperts ∧
        (place gid).owner = tier ∧ (place gid).pending = .idle ∧
          ((place gid).isHot || (place gid).isWarm) = true)
    (unique : ranked.Nodup)
    (unseen : ∀ gid ∈ ranked, gid ∉ seen) :
    registry.auditLru tier seen ranked = none := by
  induction ranked generalizing seen with
  | nil => rfl
  | cons gid rest step =>
    obtain ⟨absent, uniqueRest⟩ := List.nodup_cons.mp unique
    obtain ⟨inside, ownerEq, idle, isListed⟩ :=
      resident gid List.mem_cons_self
    have fit := accounts.catalog.fits gid inside
    have notSeen := unseen gid List.mem_cons_self
    have isPublished := fit.published.mpr idle
    have operationEq := fit.operation.trans idle
    have inLru := fit.inLru.trans isListed
    have owner := fit.owner.trans ownerEq
    unfold auditLru
    rw [if_neg (by
      simp [notSeen, inside, inLru, owner, isPublished, operationEq])]
    apply step
    · exact fun other present =>
        resident other (List.mem_cons_of_mem _ present)
    · exact uniqueRest
    · intro other present
      rw [List.mem_cons, not_or]
      refine ⟨?_, unseen other (List.mem_cons_of_mem _ present)⟩
      rintro rfl
      exact absent present

section

variable
    (accounts : Accounts stranded registry place none)

include accounts

theorem Accounts.validateLru_hot :
    registry.validateLru registry.hotVramLru .hotVram = none := by
  unfold validateLru
  rw [accounts.auditLru_eq_none _ accounts.ranks.hot.nodup (by simp)]
  · rw [Option.none_or, List.findSome?_eq_none_iff]
    intro gid present
    have inside := List.mem_range.mp present
    have fit := accounts.catalog.fits gid inside
    have ranked := accounts.ranks.hot.mem_iff gid
    simp only [fit.owner, fit.inLru]
    cases here : place gid <;> simp_all
  · intro gid present
    obtain ⟨inside, isHot⟩ := (accounts.ranks.hot.mem_iff gid).mp present
    cases here : place gid <;> simp_all

theorem Accounts.validateLru_warm :
    registry.validateLru registry.warmHostLru .warmHost = none := by
  unfold validateLru
  rw [accounts.auditLru_eq_none _ accounts.ranks.warm.nodup (by simp)]
  · rw [Option.none_or, List.findSome?_eq_none_iff]
    intro gid present
    have inside := List.mem_range.mp present
    have fit := accounts.catalog.fits gid inside
    have ranked := accounts.ranks.warm.mem_iff gid
    simp only [fit.owner, fit.inLru]
    cases here : place gid <;> simp_all
  · intro gid present
    obtain ⟨inside, isWarm⟩ := (accounts.ranks.warm.mem_iff gid).mp present
    cases here : place gid <;> simp_all

/-- The scan of the marks finds nothing. -/
theorem Accounts.auditMarks_eq_none :
    registry.auditMarks = none := by
  unfold auditMarks
  rw [Option.or_eq_none_iff, List.findSome?_eq_none_iff,
    List.findSome?_eq_none_iff]
  constructor
  · intro gid present
    have inside := List.mem_range.mp present
    by_cases mark : (registry.catalog gid).residentAtPrefillBegin = true
    · simp [(accounts.marks.marked gid inside mark).1]
    · simp [mark]
  · intro gid present
    have inside := List.mem_range.mp present
    by_cases mark : (registry.catalog gid).residentAtPrefillBegin = true
    · have isHot := (accounts.marks.marked gid inside mark).2
      rw [(accounts.catalog.fits gid inside).owner]
      cases here : place gid <;> simp_all
    · simp [mark]

theorem Accounts.shadowLru_of_thawed
    (thawed : registry.warmFrozen = false) :
    registry.shadowLru = [] := by
  rw [List.eq_nil_iff_forall_not_mem]
  intro gid ranked
  obtain ⟨inside, host, slot, shadowed, _⟩ :=
    accounts.shadow_of_ranked ranked
  have admitted := accounts.catalog.admitted gid inside
  rw [shadowed, thawed] at admitted
  contradiction

end

theorem Consistent.violation_eq_none
    (consistent : Consistent stranded registry) :
    registry.violation = none := by
  obtain ⟨place, accounts⟩ := consistent
  unfold violation
  simp only [Option.or_eq_none_iff, List.findSome?_eq_none_iff]
  refine ⟨?_, ?_, ?_, ?_, ?_, ?_, ?_, ?_, ?_⟩
  · exact fun gid present =>
      accounts.auditEntry_eq_none (List.mem_range.mp present)
  · exact fun slot _ => accounts.auditVramSlot_eq_none slot
  · exact fun slot _ => accounts.auditHostSlot_eq_none slot
  · exact accounts.auditShadowLru_eq_none (fun _ present => present)
      accounts.ranks.shadow.nodup (by simp)
  · exact fun gid present =>
      accounts.auditShadowEntry_eq_none (List.mem_range.mp present)
  · cases frozen : registry.warmFrozen with
    | true => simp
    | false => simp [accounts.shadowLru_of_thawed frozen]
  · exact accounts.auditMarks_eq_none
  · exact accounts.validateLru_hot
  · exact accounts.validateLru_warm

section

variable
    {α : Type}
    {value : α}
    (consistent : Consistent stranded registry)

include consistent

/-- So an audit at the end of a call returns. -/
theorem Consistent.validated :
    registry.validated value = .returned value registry := by
  unfold ExpertRegistry.validated
  rw [consistent.violation_eq_none]

/-- So does the audit of a single request. -/
theorem Consistent.checkedValidate :
    registry.checkedValidate value = .returned value registry := by
  unfold ExpertRegistry.checkedValidate
  split
  · exact consistent.validated
  · rfl

end

end Aeon.Registry
