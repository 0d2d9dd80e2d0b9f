import Aeon.VramCustody

namespace Aeon.Registry

open ExpertRegistry
open Aeon.SlotCustody
open Function (update update_of_ne update_self)

/-!
# Leased residents are never moved

A lease on an idle Hot resident or on a shadow means that a kernel may be reading
its VRAM slot.  Every operation of the registry, in every mode and whether it
returns or throws, keeps the custody of the slots and leaves such a resident where
it is.  The one exception is a completion the code does not check: a shadow copy
whose operation still has a victim being copied out of the very slot.
-/

/-- An expert may be read from a VRAM slot. -/
def Leased (entry : CatalogEntry) (slot : Nat) : Prop :=
  0 < entry.leaseCount ∧ entry.operation = .idle ∧ (stakeOf entry).Sits slot

/-- What is leased stays where it is. -/
def Keeps (before after : ExpertRegistry) : Prop :=
  ∀ gid slot, Leased (before.catalog gid) slot →
    (stakeOf (after.catalog gid)).Sits slot

theorem Spares.sits
    {before after : Nat → CatalogEntry}
    (spares : Spares before after)
    {gid slot : Nat}
    (leased : Leased (before gid) slot) :
    Leased (after gid) slot := by
  obtain ⟨held, idle, sits⟩ := leased
  obtain ⟨owner, slotIdx, operation, shadow, leases⟩ := spares gid held idle
  refine ⟨Nat.lt_of_lt_of_le held leases, operation.trans idle, ?_⟩
  rcases sits with primary | copy
  · refine .inl ?_
    simpa [stakeOf, owner, slotIdx, operation] using primary
  · exact .inr (shadow.trans copy)

/-- An operation keeps the custody of the slots and what is leased. -/
structure Safe (before after : ExpertRegistry) : Prop where
  custody : VramCustody 0 after
  keeps : Keeps before after

theorem Careful.safe
    {before after : ExpertRegistry}
    (careful : Careful 0 before after) :
    Safe before after :=
  ⟨careful.custody, fun _ _ leased => (careful.spares.sits leased).2.2⟩

theorem Careful.then
    {unplaced : Nat}
    {first second third : ExpertRegistry}
    (before : Careful unplaced first second)
    (after : Safe second third) :
    Safe first third :=
  ⟨after.custody, fun gid slot leased =>
    after.keeps gid slot (before.spares.sits leased)⟩

theorem VramCustody.safe
    {registry : ExpertRegistry}
    (custody : VramCustody 0 registry) :
    Safe registry registry :=
  Careful.safe ⟨custody, Spares.refl _⟩

theorem Safe.congr
    {before after next : ExpertRegistry}
    (safe : Safe before after)
    (same : next.vramTables = after.vramTables) :
    Safe before next := by
  have catalog : next.catalog = after.catalog :=
    congrArg (fun tables => tables.2.1) same
  exact ⟨safe.custody.congr same, fun gid slot leased =>
    catalog ▸ safe.keeps gid slot leased⟩

/-! ## Requests -/

section Requests

variable {registry : ExpertRegistry} {gid operationId : Nat}

/-- What an operation needs of the expert it is about to bring in. -/
structure Bringable
    (registry : ExpertRegistry)
    (gid operationId : Nat)
    (target : Option Nat) : Prop where
  custody : VramCustody operationId registry
  inside : gid < registry.totalExperts
  idle : (registry.catalog gid).operation = .idle
  away : (registry.catalog gid).owner ≠ .hotVram
  numbered : operationId ≠ 0 ∧ operationId < registry.nextOperationId
  alone : ∀ other otherTarget,
    (stakeOf (registry.catalog other)).coming ≠ some (operationId, otherTarget)
  claims : ∀ slot, target = some slot →
    registry.vramSlotReservations slot = operationId
  shares : ∀ other slot,
    (stakeOf (registry.catalog other)).leaving = some (operationId, slot) →
      target = some slot

variable {target : Option Nat}
variable {capacity : Nat}

theorem begin_safe
    (bringable : Bringable registry gid operationId target)
    {after : ExpertRegistry}
    {entry : CatalogEntry}
    {warm : List Nat}
    (tables : after.vramTables =
      ({ registry with
        catalog := update registry.catalog gid entry
        warmHostLru := warm } : ExpertRegistry).vramTables)
    (warmSub : warm.Sublist registry.warmHostLru)
    (unlisted : gid ∉ warm)
    (owner : entry.owner = (registry.catalog gid).owner)
    (moving : entry.operation = .ioPending ∨ entry.operation = .promotionPending)
    (promoting : entry.operation = .promotionPending → entry.owner = .warmHost)
    (shadowing : entry.warmShadow = true → entry.operation = .promotionPending)
    (numbered : entry.operationId = operationId)
    (copying : entry.gpuTransfer = .h2dPending)
    (pending : entry.pendingSlotIdx = target)
    (shadow : entry.shadowVramSlot = (registry.catalog gid).shadowVramSlot) :
    Safe registry after := by
  have idle := bringable.idle
  have stake : stakeOf entry =
      { stakeOf (registry.catalog gid) with
        copyingOut := false
        coming := some (operationId, target) } := by
    rcases moving with reading | promotion
    · simp [stakeOf, idle, bringable.away, reading, numbered, pending, shadow,
        copying]
    · simp [stakeOf, idle, bringable.away, promotion, numbered, pending, shadow,
        copying]
  refine Safe.congr ⟨⟨?_, ?_⟩, ?_⟩ tables
  · have resigned := bringable.custody.custody.resign gid
      { stakeOf (registry.catalog gid) with copyingOut := false }
      (by constructor <;> simp)
    have placed := resigned.place gid target bringable.numbered
      (fun other different => by
        rw [update_of_ne different]
        exact bringable.alone other)
      bringable.claims
      (fun other slot leaves => by
        by_cases same : other = gid
        · subst same
          rw [update_self] at leaves
          exact bringable.shares other slot leaves
        · rw [update_of_ne same] at leaves
          exact bringable.shares other slot leaves)
    rw [update_self, Function.update_idem, ← stake] at placed
    change Custody (stakeOf ∘ update registry.catalog gid entry) _ _ _ _ _
    rw [stakes_setEntry]
    exact placed
  · refine bringable.custody.ranked.unlist (List.Sublist.refl _)
      (bringable.custody.ranked.notMem_hot (.inl bringable.away)) warmSub unlisted
      ⟨fun hot => absurd (owner.symm.trans hot) bringable.away, ?_, promoting,
        fun _ => owner ▸ bringable.away, shadowing, fun outside =>
          absurd bringable.inside (Nat.not_lt.mpr outside)⟩
    rcases moving with reading | promotion
    · simp [reading]
    · simp [promotion]
  · rintro other slot ⟨-, isIdle, sits⟩
    by_cases same : other = gid
    · subst same
      rcases sits with primary | copy
      · exact absurd primary (by simp [stakeOf, bringable.away])
      · refine .inr ?_
        simpa [stake] using copy
    · simpa [same] using sits

section

variable
    (custody : VramCustody 0 registry)

include custody

theorem VramCustody.takeOperationId :
    VramCustody 0 registry.takeOperationId :=
  ⟨custody.custody.issue (Nat.le_succ _), custody.ranked⟩

theorem VramCustody.fresh_leaving :
    NobodyLeaves registry registry.nextOperationId := by
  intro other slot leaves
  exact absurd ((custody.custody.backed other).leaves _ slot leaves).2
    (Nat.lt_irrefl _)

theorem VramCustody.fresh_coming
    (other : Nat)
    (target : Option Nat) :
    (stakeOf (registry.catalog other)).coming ≠
      some (registry.nextOperationId, target) := by
  intro comes
  exact absurd ((custody.custody.backed other).comes _ target comes).2
    (Nat.lt_irrefl _)

theorem VramCustody.unplace
    (operationId : Nat) :
    VramCustody operationId registry :=
  ⟨custody.custody.unplace operationId, custody.ranked⟩

/-- An expert about to be brought in, with no slot asked for yet. -/
theorem bringable_unplaced
    (inside : gid < registry.totalExperts)
    (idle : (registry.catalog gid).operation = .idle)
    (away : (registry.catalog gid).owner ≠ .hotVram) :
    Bringable registry.takeOperationId gid registry.nextOperationId none where
  custody := custody.takeOperationId.unplace _
  inside := inside
  idle := idle
  away := away
  numbered :=
    ⟨Nat.pos_iff_ne_zero.mp custody.custody.started, Nat.lt_succ_self _⟩
  alone := custody.fresh_coming
  claims := nofun
  shares := fun other slot leaves =>
    absurd leaves (custody.fresh_leaving other slot)

end

theorem Bringable.destined
    (bringable : Bringable registry gid operationId none)
    {after : ExpertRegistry}
    {slot : Nat}
    (destined : Destined registry after gid slot operationId)
    (issued : after.nextOperationId = registry.nextOperationId)
    (total : after.totalExperts = registry.totalExperts) :
    Bringable after gid operationId (some slot) where
  custody := destined.careful.custody
  inside := total ▸ bringable.inside
  idle := by
    have same := congrArg CatalogEntry.operation destined.incoming
    exact same.trans bringable.idle
  away := by
    have same := congrArg CatalogEntry.owner destined.incoming
    exact fun hot => bringable.away (same.symm.trans hot)
  numbered := issued ▸ bringable.numbered
  alone := fun other target => by
    rw [destined.coming]
    exact bringable.alone other target
  claims := fun other same => by
    rw [← Option.some.inj same]
    exact destined.reserved
  shares := fun other otherSlot leaves =>
    congrArg some (destined.victims other otherSlot leaves).symm

section

variable
    (bringable : Bringable registry gid operationId target)

include bringable

theorem Bringable.unmarked :
    (registry.catalog gid).warmShadow = false :=
  bringable.custody.ranked.unmarked (by simp [bringable.idle])

theorem Bringable.unlisted :
    gid ∉ (registry.removeFromWarmLru gid).warmHostLru :=
  notMem_removed bringable.custody.ranked.warmOnce fun isWarm =>
    (bringable.custody.ranked.warm gid isWarm).listed

end

theorem finishColdRead_safe
    (destination : Option VramDestination)
    (bringable : Bringable registry gid operationId
      (destination.map VramDestination.vramSlot))
    (cold : (registry.catalog gid).owner = .coldNvme) :
    Safe registry
      (registry.finishColdRead gid operationId destination).registry := by
  rw [finishColdRead, checkedValidate_registry]
  refine begin_safe bringable rfl (List.Sublist.refl _)
    (bringable.custody.ranked.notMem_warm (.inl (by simp [cold]))) rfl
    (.inl rfl) (by intro same; cases same) ?_ rfl rfl rfl rfl
  simp [bringable.unmarked]

/-- A Warm resident's entry once a copy into VRAM is pending. -/
def promotedEntry
    (entry : CatalogEntry)
    (operationId : Nat)
    (target : Option Nat)
    (shadow : Bool) : CatalogEntry :=
  { entry with
    inLru := false
    operation := .promotionPending
    operationId := operationId
    gpuTransfer := .h2dPending
    publication := .unpublished
    slotState := .active
    leaseCount := entry.leaseCount + 1
    pendingSlotIdx := target
    warmShadow := shadow || entry.warmShadow }

theorem finishShadowReservation_safe
    (bringable : Bringable registry gid operationId target)
    (warm : (registry.catalog gid).owner = .warmHost) :
    Safe registry
      (registry.finishShadowReservation gid operationId target).registry := by
  rw [finishShadowReservation, checkedValidate_registry]
  let next := promotedEntry (registry.catalog gid) operationId target true
  have tables : ((({ registry with
      hitsWarm := registry.hitsWarm + 1
      shadowCopies := registry.shadowCopies + 1 } :
        ExpertRegistry).removeFromWarmLru gid).beginOperation gid operationId
          .promotionPending target true).vramTables =
      ({ registry with
        catalog := update registry.catalog gid next
        warmHostLru := (registry.removeFromWarmLru gid).warmHostLru } :
          ExpertRegistry).vramTables := by
    simp [vramTables, removeFromWarmLru, beginOperation, setEntry, next,
      promotedEntry]
  exact begin_safe bringable tables (removed_sublist gid _ _) bringable.unlisted
    rfl (.inr rfl) (fun _ => warm) (fun _ => rfl) rfl rfl rfl rfl

theorem finishPromotion_safe
    {destination : VramDestination}
    (bringable : Bringable registry gid operationId (some destination.vramSlot))
    (warm : (registry.catalog gid).owner = .warmHost) :
    Safe registry
      (registry.finishPromotion gid operationId destination).registry := by
  rw [finishPromotion, checkedValidate_registry]
  let next := promotedEntry (registry.catalog gid) operationId
    (some destination.vramSlot) false
  have tables : (((({ registry with hitsWarm := registry.hitsWarm + 1 } :
      ExpertRegistry).removeFromWarmLru gid).setHostReservation
        ((registry.catalog gid).slotIdx.getD 0) operationId).beginOperation gid
          operationId .promotionPending (some destination.vramSlot)
            false).vramTables =
      ({ registry with
        catalog := update registry.catalog gid next
        warmHostLru := (registry.removeFromWarmLru gid).warmHostLru } :
          ExpertRegistry).vramTables := by
    simp [vramTables, removeFromWarmLru, setHostReservation, beginOperation,
      setEntry, next, promotedEntry]
  exact begin_safe bringable tables (removed_sublist gid _ _) bringable.unlisted
    rfl (.inr rfl) (fun _ => warm) (fun _ => rfl) rfl rfl rfl rfl

theorem reserve_then
    {Result : Type}
    (custody : VramCustody 0 registry)
    (inside : gid < registry.totalExperts)
    (idle : (registry.catalog gid).operation = .idle)
    (away : (registry.catalog gid).owner ≠ .hotVram)
    {finish : VramDestination → ExpertRegistry → Outcome Result}
    (finishes : ∀ destination after,
      Bringable after gid registry.nextOperationId (some destination.vramSlot) →
        (after.catalog gid).owner = (registry.catalog gid).owner →
          Safe after (finish destination after).registry) :
    Safe registry
      (match registry.takeOperationId.reserveVramDestination gid
          registry.nextOperationId capacity with
        | .threw error after => (Outcome.threw error after : Outcome Result)
        | .returned destination after => finish destination after).registry := by
  have bringable := bringable_unplaced custody inside idle away
  have frame :
      Frame registry.nextOperationId none registry.takeOperationId
        (registry.takeOperationId.reserveVramDestination gid
          registry.nextOperationId capacity).registry :=
    (Frame.refl _ _).reserveVramDestination
  have issued := frame.nextOperationId
  have settings := frame.settings
  split
  next error after threw =>
    rw [reserveVramDestination_threw threw]
    exact ⟨custody.takeOperationId, custody.safe.keeps⟩
  next destination after reserved =>
    rw [reserved] at issued settings
    have destined := reserveVramDestination_destined bringable.custody
      custody.fresh_leaving bringable.numbered reserved
    have total : after.totalExperts = registry.totalExperts :=
      congrArg (fun settings => settings.1.2.2.1) settings
    have spared : Careful registry.nextOperationId registry after :=
      ⟨destined.careful.custody, destined.careful.spares⟩
    have owner := congrArg CatalogEntry.owner destined.incoming
    exact spared.then (finishes destination after
      (bringable.destined destined issued total) owner)

theorem reserveTransfer_safe
    {stageOnly : Bool}
    (custody : VramCustody 0 registry)
    (inside : gid < registry.totalExperts)
    (idle : (registry.catalog gid).operation = .idle)
    (away : (registry.catalog gid).owner ≠ .hotVram) :
    Safe registry
      (registry.reserveTransfer gid capacity stageOnly).registry := by
  have bringable := bringable_unplaced custody inside idle away
  have numbered : Careful registry.nextOperationId registry
      registry.takeOperationId :=
    ⟨bringable.custody, Spares.refl _⟩
  unfold reserveTransfer
  cases owner : (registry.catalog gid).owner with
  | hotVram => exact absurd owner away
  | warmHost =>
    simp only
    split
    · split
      · exact numbered.then (finishShadowReservation_safe bringable owner)
      · exact reserve_then custody inside idle away
          fun destination after placed same =>
            finishShadowReservation_safe placed (same.trans owner)
    · exact reserve_then custody inside idle away
        fun destination after placed same =>
          finishPromotion_safe placed (same.trans owner)
  | coldNvme =>
    simp only
    split
    · exact numbered.then (finishColdRead_safe none bringable owner)
    · exact reserve_then custody inside idle away
        fun destination after placed same =>
          finishColdRead_safe (some destination) placed (same.trans owner)

/-- Counting an activation or a lease moves nobody. -/
theorem count_careful
    (custody : VramCustody 0 registry)
    (entry : CatalogEntry)
    (stake : stakeOf entry = stakeOf (registry.catalog gid))
    (spared : Spared (registry.catalog gid) entry)
    (inLru : entry.inLru = (registry.catalog gid).inLru)
    (warmShadow : entry.warmShadow = (registry.catalog gid).warmShadow) :
    Careful 0 registry (registry.setEntry gid entry) :=
  ⟨custody.setEntry_same stake spared.owner spared.slotIdx spared.operation inLru
      warmShadow,
    Spares.update_same spared⟩

theorem recordActivation_careful
    (custody : VramCustody 0 registry)
    (currentStep : Nat) :
    Careful 0 registry (registry.recordActivation gid currentStep) :=
  count_careful custody _ rfl ⟨rfl, rfl, rfl, rfl, Nat.le_refl _⟩ rfl rfl

theorem acquireLease_careful
    (gid : Nat)
    (custody : VramCustody 0 registry) :
    Careful 0 registry (registry.acquireLease gid) :=
  count_careful custody _ rfl ⟨rfl, rfl, rfl, rfl, Nat.le_succ _⟩ rfl rfl

/-- A Hot hit moves a resident to the front of its list and nowhere else. -/
theorem touchHotLru_careful
    (custody : VramCustody 0 registry)
    (inside : gid < registry.totalExperts)
    (owner : (registry.catalog gid).owner = .hotVram)
    (idle : (registry.catalog gid).operation = .idle) :
    Careful 0 registry (registry.touchHotLru gid) := by
  have placed := (custody.ranked.credible gid).placed owner
  have unlisted : gid ∉ (registry.removeFromHotLru gid).hotVramLru :=
    notMem_removed custody.ranked.hotOnce fun isHot =>
      (custody.ranked.hot gid isHot).listed
  let next : CatalogEntry := { registry.catalog gid with inLru := true }
  have tables : (registry.touchHotLru gid).vramTables =
      ({ registry with
        catalog := update registry.catalog gid next
        hotVramLru := gid :: (registry.removeFromHotLru gid).hotVramLru } :
          ExpertRegistry).vramTables := by
    simp [vramTables, touchHotLru, removeFromHotLru, pushHotLruFront, setEntry,
      next]
  have same : stakeOf ∘ update registry.catalog gid next =
      stakeOf ∘ registry.catalog := by
    rw [stakes_setEntry]
    exact Function.update_eq_self gid (stakeOf ∘ registry.catalog)
  have spares : Spares registry.catalog
      (update registry.catalog gid next) :=
    Spares.update_same ⟨rfl, rfl, rfl, rfl, Nat.le_refl _⟩
  refine Careful.congr ⟨⟨?_, ?_⟩, spares⟩ tables
  · change Custody (stakeOf ∘ update registry.catalog gid next) _ _ _ _ _
    rw [same]
    exact custody.custody
  · refine custody.ranked.replace
      (List.nodup_cons.mpr ⟨unlisted,
        (removed_sublist gid _ _).nodup custody.ranked.hotOnce⟩)
      (fun other isHot different => ?_)
      (fun _ => ⟨inside, owner, idle, placed, rfl⟩) custody.ranked.warmOnce
      (fun _ isWarm _ => isWarm)
      (fun isWarm => absurd isWarm
        (custody.ranked.notMem_warm (.inl (by simp [owner]))))
      (credible_of_settled _ _ (fun _ => placed) idle
        (custody.ranked.unmarked (by simp [idle])))
    rcases List.mem_cons.mp isHot with same | before
    · exact absurd same different
    · exact (removed_sublist gid _ _).subset before

theorem reserveRequestByGid_safe
    {currentStep capacity : Nat}
    {stageOnly : Bool}
    (custody : VramCustody 0 registry) :
    Safe registry
      (registry.reserveRequestByGid gid currentStep capacity
        stageOnly).registry := by
  unfold reserveRequestByGid
  split
  · exact custody.safe
  next inRange =>
    have inside : gid < registry.totalExperts := Nat.lt_of_not_le inRange
    have active : Careful 0 registry (registry.recordActivation gid currentStep) :=
      recordActivation_careful custody currentStep
    simp only
    split
    · split
      · exact active.safe
      · exact active.then (acquireLease_careful gid active.custody).safe
    next settled =>
      have idle : ((registry.recordActivation gid currentStep).catalog
          gid).operation = .idle :=
        Classical.byContradiction fun moving => settled (.inl moving)
      split
      next owner =>
        have touched := touchHotLru_careful active.custody inside owner idle
        have leased := acquireLease_careful gid touched.custody
        exact (active.then (touched.then leased.safe)).congr rfl
      next away =>
        split
        · have leased := acquireLease_careful gid active.custody
          exact (active.then leased.safe).congr rfl
        · exact active.then
            (reserveTransfer_safe active.custody inside idle away)

theorem releaseLease_custody
    (custody : VramCustody 0 registry) :
    VramCustody 0 (registry.releaseLease gid).registry := by
  unfold releaseLease
  split
  · exact custody
  · exact custody.setEntry_same rfl rfl rfl rfl rfl rfl

theorem releaseLease_keeps
    {other slot : Nat}
    (leased : Leased (registry.catalog other) slot) :
    (stakeOf ((registry.releaseLease gid).registry.catalog other)).Sits slot := by
  unfold releaseLease
  split
  · exact leased.2.2
  · by_cases same : other = gid
    · subst same
      simpa [setEntry, stakeOf, Stake.Sits] using leased.2.2
    · simpa [setEntry, same] using leased.2.2

section

variable
    (found : registry.findIncomingOperation operationId = some gid)

include found

theorem coming_of_found :
    gid < registry.totalExperts ∧ (registry.catalog gid).operationId = operationId ∧
      ((registry.catalog gid).operation = .ioPending ∨
        (registry.catalog gid).operation = .promotionPending) := by
  have inside := List.mem_range.mp (List.mem_of_find?_eq_some found)
  have matches_ := List.find?_some found
  simp only [Bool.and_eq_true, Bool.or_eq_true, beq_iff_eq] at matches_
  exact ⟨inside, matches_⟩

theorem stake_of_found :
    (stakeOf (registry.catalog gid)).coming =
      some (operationId, (registry.catalog gid).pendingSlotIdx) := by
  obtain ⟨-, numbered, moving⟩ := coming_of_found found
  simp [stakeOf, numbered, moving]

end

theorem place_safe
    {before : ExpertRegistry}
    {slot : Nat}
    (destined : Destined before registry gid slot operationId)
    (moving : (registry.catalog gid).operation = .ioPending ∨
      (registry.catalog gid).operation = .promotionPending)
    (numbered : (registry.catalog gid).operationId = operationId)
    (alone : ∀ other, other ≠ gid → ∀ target,
      (stakeOf (registry.catalog other)).coming ≠ some (operationId, target))
    (issued : operationId ≠ 0 ∧ operationId < registry.nextOperationId) :
    Safe registry
      (registry.setEntry gid
        { registry.catalog gid with pendingSlotIdx := some slot }) := by
  have custody := destined.careful.custody
  have stake : stakeOf { registry.catalog gid with pendingSlotIdx := some slot } =
      { stakeOf (registry.catalog gid) with
        coming := some (operationId, some slot) } := by
    simp [stakeOf, moving, numbered]
  refine ⟨⟨?_, custody.ranked.keep rfl rfl rfl rfl rfl⟩, ?_⟩
  · rw [setEntry, stakes_setEntry, stake]
    exact custody.custody.place gid (some slot) issued alone
      (fun other same => by
        rw [← Option.some.inj same]
        exact destined.reserved)
      (fun other otherSlot leaves =>
        congrArg some (destined.victims other otherSlot leaves).symm)
  · rintro other otherSlot ⟨-, idle, sits⟩
    have different : other ≠ gid := by
      rintro rfl
      simp [idle] at moving
    simpa [setEntry, different] using sits

theorem attachVramDestination_safe
    (custody : VramCustody 0 registry) :
    Safe registry
      (registry.attachVramDestination operationId capacity).registry := by
  unfold attachVramDestination
  split
  · exact custody.safe
  next gid found =>
    have comes := stake_of_found found
    obtain ⟨inside, numbered, moving⟩ := coming_of_found found
    split
    · exact custody.safe
    next unplaced =>
      rw [unplaced] at comes
      have fresh : NobodyLeaves registry operationId := by
        intro other slot leaves
        have shared := custody.custody.shares gid other operationId none slot comes
          leaves ((custody.custody.backed gid).comes _ _ comes).1
        exact absurd shared (by simp)
      have issued :
          (registry.reserveVramDestination gid operationId
            capacity).registry.nextOperationId = registry.nextOperationId :=
        (Frame.refl _ registry).reserveVramDestination.nextOperationId
      split
      next error after threw =>
        rw [reserveVramDestination_threw threw]
        exact custody.safe
      next destination after reserved =>
        rw [reserved] at issued
        have destined := reserveVramDestination_destined
          (custody.unplace operationId) fresh
          ((custody.custody.backed gid).comes _ _ comes) reserved
        have operation_eq := congrArg CatalogEntry.operation destined.incoming
        have numbered_eq := congrArg CatalogEntry.operationId destined.incoming
        exact destined.careful.then (place_safe destined
          (operation_eq.symm ▸ moving) (numbered_eq.trans numbered)
          (fun other different target otherComes => different
            (custody.custody.comesAlone other gid operationId target none
              (destined.coming other ▸ otherComes) comes))
          (issued ▸ (custody.custody.backed gid).comes _ _ comes))

end Requests

/-! ## Completions and failures -/

section Completions

variable {registry : ExpertRegistry} {gid operationId : Nat}

theorem victim_of_found
    (found : registry.findOperationVictim operationId = some gid) :
    gid < registry.totalExperts ∧ (registry.catalog gid).operationId = operationId ∧
      (registry.catalog gid).operation = .demotionPending := by
  have inside := List.mem_range.mp (List.mem_of_find?_eq_some found)
  have isVictim := List.find?_some found
  simp only [Bool.and_eq_true, beq_iff_eq] at isVictim
  exact ⟨inside, isVictim⟩

variable {slot : Nat}
variable {after : ExpertRegistry}
variable {victim : Nat}

theorem leaving_of_victim
    (numbered : (registry.catalog gid).operationId = operationId)
    (moving : (registry.catalog gid).operation = .demotionPending)
    (placed : (registry.catalog gid).slotIdx = some slot) :
    (stakeOf (registry.catalog gid)).leaving = some (operationId, slot) := by
  simp [stakeOf, numbered, moving, placed]

section

variable
    (custody : VramCustody 0 registry)

include custody

theorem endDemotion_safe
    (numbered : (registry.catalog gid).operationId = operationId)
    (moving : (registry.catalog gid).operation = .demotionPending)
    (copying : (registry.catalog gid).gpuTransfer = .d2hPending)
    (placed : (registry.catalog gid).slotIdx = some slot)
    (entry : CatalogEntry)
    {warm : List Nat}
    (tables : after.vramTables =
      ({ registry with
        catalog := update registry.catalog gid entry
        vramSlots := update registry.vramSlots slot none
        warmHostLru := warm } : ExpertRegistry).vramTables)
    (idle : entry.operation = .idle)
    (away : entry.owner ≠ .hotVram)
    (shadow : entry.shadowVramSlot = (registry.catalog gid).shadowVramSlot)
    (ranked : Ranked registry.totalExperts
      (update registry.catalog gid entry) registry.hotVramLru warm) :
    Safe registry after := by
  have leaves := leaving_of_victim numbered moving placed
  have apart := custody.shadow_apart (.inr ⟨operationId, leaves⟩)
  have drains : (stakeOf (registry.catalog gid)).Drains slot :=
    ⟨by simp [stakeOf, copying], operationId, leaves⟩
  refine Careful.safe (Careful.congr ⟨⟨?_, ranked⟩,
    Spares.update _ (.inr (by simp [moving]))⟩ tables)
  change Custody (stakeOf ∘ update registry.catalog gid entry) _ _ _ _ _
  rw [stakes_setEntry]
  exact custody.custody.abandon (stakeOf entry) (.inr drains)
    (within_of_settled _ entry idle away (.inr shadow))
    (left_of_settled entry idle away (shadow ▸ apart))

theorem completeDemotion_safe :
    Safe registry (registry.completeDemotion operationId).registry := by
  unfold completeDemotion
  split
  · exact custody.safe
  next gid found =>
    obtain ⟨inside, numbered, moving⟩ := victim_of_found found
    have unmarked := custody.ranked.unmarked
      (show (registry.catalog gid).operation ≠ .promotionPending by simp [moving])
    split
    · exact custody.safe
    next copying =>
      split
      next source destination placed reserved =>
        simp only [checkedValidate_registry]
        let next : CatalogEntry :=
          { demotedEntry (registry.catalog gid) destination with inLru := true }
        have ranked := custody.ranked.enlistWarm
          (show (registry.catalog gid).operation ≠ .idle by simp [moving])
          (show WarmRanked next from ⟨rfl, rfl, rfl⟩) unmarked
          (registry.catalog gid).inLru
        refine endDemotion_safe custody numbered moving
          (Classical.byContradiction copying) placed next ?_ rfl
          (by simp [next, demotedEntry]) rfl ranked
        simp [vramTables, setHostSlot, setHostReservation, setEntry,
          pushWarmLruFront, setVramSlot, demotedEntry, next]
      · exact custody.safe

theorem failDemotion_safe :
    Safe registry (registry.failDemotion operationId).registry := by
  unfold failDemotion
  split
  · exact custody.safe
  next gid found =>
    obtain ⟨inside, numbered, moving⟩ := victim_of_found found
    have unmarked := custody.ranked.unmarked
      (show (registry.catalog gid).operation ≠ .promotionPending by simp [moving])
    have owner := (custody.ranked.credible gid).leaving moving
    obtain ⟨slot, placed⟩ := Option.isSome_iff_exists.mp
      ((custody.ranked.credible gid).placed owner)
    split
    · exact custody.safe
    next copying =>
      simp only [checkedValidate_registry, placed]
      have ranked := custody.ranked.unlist (List.Sublist.refl _)
        (custody.ranked.notMem_hot (.inr (by simp [moving]) : _ ∨
          (registry.catalog gid).operation ≠ .idle))
        (List.Sublist.refl _)
        (custody.ranked.notMem_warm (.inr (by simp [moving])))
        (credible_of_settled _ _ nofun rfl unmarked :
          Credible _ gid (coldEntry (registry.catalog gid)))
      refine endDemotion_safe custody numbered moving
        (Classical.byContradiction copying) placed
        (coldEntry (registry.catalog gid)) ?_ rfl (by simp [coldEntry]) rfl ranked
      cases registry.findReservedHostSlot operationId with
      | none => simp [vramTables, setEntry, setVramSlot]
      | some host =>
        simp [vramTables, setEntry, setVramSlot, releaseReservedHostSlot,
          setHostSlot, setHostReservation, pushFreeHost]

theorem dropDemotion_safe :
    Safe registry (registry.dropDemotion operationId).registry := by
  unfold dropDemotion
  split
  · exact custody.safe
  next gid found =>
    obtain ⟨inside, numbered, moving⟩ := victim_of_found found
    split
    · exact custody.safe
    next unsent =>
      simp only [checkedValidate_registry]
      let next : CatalogEntry :=
        { registry.catalog gid with
          gpuTransfer := .idle
          demotionDropReason := .unspecified }
      have careful : Careful 0 registry (registry.setEntry gid next) := by
        refine ⟨⟨?_, custody.ranked.keep rfl rfl rfl rfl rfl⟩,
          Spares.update _ (.inr (by simp [moving]))⟩
        rw [setEntry, stakes_setEntry]
        refine custody.custody.resign gid _ ?_
        constructor <;> simp [stakeOf, next]
      refine careful.safe.congr ?_
      cases registry.findReservedHostSlot operationId with
      | none => rfl
      | some host => rfl

/-- Nobody else comes for an operation, and its copied-out victim is known. -/
theorem VramCustody.unclaimed
    (found : registry.findIncomingOperation operationId = some gid)
    (reserved : registry.vramSlotReservations slot = operationId)
    (other : Nat)
    (different : other ≠ gid) :
    ¬ (stakeOf (registry.catalog other)).Claims slot := by
  rintro ⟨operation, comes⟩
  have same := (custody.custody.backed other).claims operation slot comes
  rw [reserved] at same
  subst same
  exact different (custody.custody.comesAlone other gid operationId _ _ comes
    (stake_of_found found))

end

/--
No shadow copy may complete while its operation's victim is still being copied out:
the victim's slot is the copy's own.
-/
def Calm (registry : ExpertRegistry) (operationId : Nat) : Prop :=
  ∀ victim, registry.findOperationVictim operationId = some victim →
    (registry.catalog victim).gpuTransfer ≠ .d2hPending

theorem VramCustody.found_of_leaving
    (custody : VramCustody 0 registry)
    {other slot : Nat}
    (leaves : (stakeOf (registry.catalog other)).leaving =
      some (operationId, slot)) :
    registry.findOperationVictim operationId = some other := by
  have facts : (registry.catalog other).operation = .demotionPending ∧
      (registry.catalog other).operationId = operationId := by
    simp only [stakeOf] at leaves
    split at leaves
    next moving =>
      obtain ⟨_, _, same⟩ := Option.map_eq_some_iff.mp leaves
      exact ⟨moving, congrArg Prod.fst same⟩
    next => simp at leaves
  have inside : other < registry.totalExperts := by
    refine Nat.lt_of_not_le fun outside => ?_
    have idle := (custody.ranked.credible other).outside outside
    simp [facts.1] at idle
  have present : (registry.findOperationVictim operationId).isSome := by
    refine List.find?_isSome.mpr ⟨other, List.mem_range.mpr inside, ?_⟩
    simp [facts]
  obtain ⟨victim, found⟩ := Option.isSome_iff_exists.mp present
  obtain ⟨-, numbered, moving⟩ := victim_of_found found
  obtain ⟨place, placed⟩ := Option.isSome_iff_exists.mp
    ((custody.ranked.credible victim).placed
      ((custody.ranked.credible victim).leaving moving))
  have same := custody.custody.leavesAlone victim other operationId place slot
    (leaving_of_victim numbered moving placed) leaves
  rw [found, same]

theorem VramCustody.not_drains
    (custody : VramCustody 0 registry)
    (calm : Calm registry operationId)
    (reserved : registry.vramSlotReservations slot = operationId)
    (taken : operationId ≠ 0)
    (other : Nat) :
    ¬ (stakeOf (registry.catalog other)).Drains slot := by
  rintro ⟨copying, operation, leaves⟩
  have backed := (custody.custody.backed other).drains operation slot leaves copying
  rw [reserved] at backed
  have same : operationId = operation := backed.2.resolve_left taken
  subst same
  exact calm other (custody.found_of_leaving leaves)
    (by simpa [stakeOf] using copying)

/-- The facts a completion has checked. -/
structure Completable
    (registry : ExpertRegistry)
    (gid slot operationId : Nat) : Prop where
  custody : VramCustody 0 registry
  found : registry.findIncomingOperation operationId = some gid
  pending : (registry.catalog gid).pendingSlotIdx = some slot
  reserved : registry.vramSlotReservations slot = operationId

section

variable
    (completable : Completable registry gid slot operationId)

include completable

theorem Completable.taken :
    operationId ≠ 0 :=
  ((completable.custody.custody.backed gid).comes _ _
    (stake_of_found completable.found)).1

theorem Completable.moving :
    (registry.catalog gid).operation ≠ .idle := by
  obtain ⟨-, -, reading | promoting⟩ := coming_of_found completable.found
  · simp [reading]
  · simp [promoting]

/-- The expert an operation brought in is now in its slot. -/
theorem settle_safe
    (calm : Calm registry operationId)
    (entry : CatalogEntry)
    {hot warm : List Nat}
    (tables : after.vramTables =
      ({ registry with
        catalog := update registry.catalog gid entry
        vramSlots := update registry.vramSlots slot (some gid)
        vramSlotReservations :=
          update registry.vramSlotReservations slot 0
        hotVramLru := hot
        warmHostLru := warm } : ExpertRegistry).vramTables)
    (idle : entry.operation = .idle)
    (sits : ∀ other, (stakeOf entry).Sits other → other = slot ∨
      (registry.catalog gid).shadowVramSlot = some other)
    (apart : ∀ other, entry.shadowVramSlot = some other →
      (stakeOf entry).primary ≠ some other)
    (ranked : Ranked registry.totalExperts
      (update registry.catalog gid entry) hot warm) :
    Safe registry after := by
  have custody := completable.custody
  refine Careful.safe (Careful.congr ⟨⟨?_, ranked⟩,
    Spares.update _ (.inr completable.moving)⟩ tables)
  change Custody (stakeOf ∘ update registry.catalog gid entry) _ _ _ _ _
  rw [stakes_setEntry]
  exact custody.custody.settle (stakeOf entry)
    (fun free => completable.taken (completable.reserved ▸ free))
    (custody.not_drains calm completable.reserved completable.taken)
    (custody.unclaimed completable.found completable.reserved) sits apart
    (by simp [stakeOf, idle]) (by simp [stakeOf, idle])

theorem publishHot_safe
    (calm : Calm registry operationId)
    (unmarked : (registry.catalog gid).warmShadow = false) :
    Safe registry (registry.publishHot gid slot) := by
  let next : CatalogEntry :=
    { hotEntry (registry.catalog gid) slot with inLru := true }
  have inside := (coming_of_found completable.found).1
  have ranked := completable.custody.ranked.enlistHot completable.moving
    (show HotRanked _ gid next from ⟨inside, rfl, rfl, rfl, rfl⟩) unmarked
    (registry.catalog gid).inLru
  have primary : (stakeOf next).primary = some slot := by
    simp [stakeOf, next, hotEntry]
  refine settle_safe completable calm next ?_ rfl ?_ ?_ ranked
  · simp [vramTables, publishHot, setEntry, setVramSlot, setVramReservation,
      pushHotLruFront, hotEntry, next]
  · rintro other (same | copy)
    · exact .inl (Option.some.inj (same.symm.trans primary))
    · exact .inr copy
  · intro other copy same
    have sits := (completable.custody.custody.backed gid).sits other (.inr copy)
    rw [Option.some.inj (same.symm.trans primary), completable.reserved] at sits
    exact completable.taken sits.2

theorem publishShadow_safe
    (calm : Calm registry operationId)
    (marked : (registry.catalog gid).warmShadow = true) :
    Safe registry (registry.publishShadow gid slot) := by
  let next : CatalogEntry :=
    { shadowedEntry (registry.catalog gid) (some slot) with inLru := true }
  have credible := completable.custody.ranked.credible gid
  have owner := credible.promoting (credible.shadowing marked)
  have ranked := completable.custody.ranked.enlistWarm completable.moving
    (show WarmRanked next from ⟨owner, rfl, rfl⟩) rfl (registry.catalog gid).inLru
  have primary : (stakeOf next).primary = none := by
    simp [stakeOf, next, shadowedEntry, owner]
  refine settle_safe completable calm next ?_ rfl ?_ (by simp [primary]) ranked
  · simp [vramTables, publishShadow, setEntry, setVramSlot, setVramReservation,
      pushWarmLruFront, shadowTouch, shadowedEntry, next]
  · rintro other (same | copy)
    · simp [primary] at same
    · exact .inl (Option.some.inj copy).symm

end

/-- A victim whose bytes are not being copied is dropped. -/
theorem dropVictimEntry_careful
    (custody : VramCustody 0 registry)
    {victim slot : Nat}
    (moving : (registry.catalog victim).operation = .demotionPending)
    (placed : (registry.catalog victim).slotIdx = some slot) :
    Careful 0 registry
        (registry.setEntry victim (coldEntry (registry.catalog victim))) ∧
      (registry.vramSlots slot = some victim →
        Careful 0 registry
          ((registry.setVramSlot slot none).setEntry victim
            (coldEntry (registry.catalog victim)))) := by
  have unmarked := custody.ranked.unmarked
    (show (registry.catalog victim).operation ≠ .promotionPending by simp [moving])
  have leaves := leaving_of_victim rfl moving placed
  have apart := custody.shadow_apart (.inr ⟨_, leaves⟩)
  have ranked := custody.ranked.unlist (List.Sublist.refl _)
    (custody.ranked.notMem_hot (.inr (by simp [moving]) : _ ∨
      (registry.catalog victim).operation ≠ .idle))
    (List.Sublist.refl _)
    (custody.ranked.notMem_warm (.inr (by simp [moving])))
    (credible_of_settled _ _ nofun rfl unmarked :
      Credible _ victim (coldEntry (registry.catalog victim)))
  have spares : Spares registry.catalog (update registry.catalog victim
      (coldEntry (registry.catalog victim))) :=
    Spares.update _ (.inr (by simp [moving]))
  have resigned := custody.custody.resign victim
    (stakeOf (coldEntry (registry.catalog victim)))
    (within_of_settled _ (coldEntry (registry.catalog victim)) rfl
      (by simp [coldEntry]) (.inr rfl))
  rw [← stakes_setEntry] at resigned
  refine ⟨⟨⟨resigned, ranked⟩, spares⟩, fun owns => ⟨⟨?_, ranked⟩, spares⟩⟩
  refine resigned.vacate owns ?_
  rw [stakes_setEntry, update_self]
  exact left_of_settled (coldEntry (registry.catalog victim)) rfl
    (by simp [coldEntry]) apart

/-- What retiring an operation's victim leaves for its completion. -/
structure Retired
    (registry after : ExpertRegistry)
    (victim : Nat) : Prop where
  careful : Careful 0 registry after
  reserved : after.vramSlotReservations = registry.vramSlotReservations
  total : after.totalExperts = registry.totalExperts
  catalog : after.catalog = update registry.catalog victim
    (coldEntry (registry.catalog victim))

theorem retireVictim_retired
    (custody : VramCustody 0 registry)
    (found : registry.findOperationVictim operationId = some victim) :
    Retired registry (registry.retireVictim (some victim)) victim := by
  obtain ⟨-, -, moving⟩ := victim_of_found found
  obtain ⟨slot, placed⟩ := Option.isSome_iff_exists.mp
    ((custody.ranked.credible victim).placed
      ((custody.ranked.credible victim).leaving moving))
  obtain ⟨kept, emptied⟩ := dropVictimEntry_careful custody moving placed
  unfold retireVictim
  simp only [placed]
  split
  next owns => exact ⟨emptied owns, rfl, rfl, rfl⟩
  next => exact ⟨kept, rfl, rfl, rfl⟩

/-- Another expert's entry does not decide what comes. -/
theorem Retired.found
    (retired : Retired registry after victim)
    (moving : (registry.catalog victim).operation = .demotionPending)
    (found : registry.findIncomingOperation operationId = some gid) :
    after.findIncomingOperation operationId = some gid := by
  rw [← found]
  unfold findIncomingOperation gids
  rw [retired.total]
  congr 1
  funext other
  rw [retired.catalog]
  by_cases same : other = victim
  · subst same
    simp only [update_self, coldEntry, moving]
    rfl
  · rw [update_of_ne same]

theorem Retired.unmarked
    (custody : VramCustody 0 registry)
    (retired : Retired registry after victim)
    (moving : (registry.catalog victim).operation = .demotionPending)
    (unmarked : (registry.catalog gid).warmShadow = false) :
    (after.catalog gid).warmShadow = false := by
  rw [retired.catalog]
  by_cases same : gid = victim
  · subst same
    rw [update_self]
    exact custody.ranked.unmarked (by simp [moving])
  · rwa [update_of_ne same]

theorem Retired.completable
    {victim slot : Nat}
    (retired : Retired registry after victim)
    (moving : (registry.catalog victim).operation = .demotionPending)
    (completable : Completable registry gid slot operationId) :
    Completable after gid slot operationId := by
  have different : gid ≠ victim := by
    rintro rfl
    obtain ⟨-, -, reading | promoting⟩ := coming_of_found completable.found
    · simp [moving] at reading
    · simp [moving] at promoting
  refine ⟨retired.careful.custody, retired.found moving completable.found, ?_, ?_⟩
  · rw [retired.catalog, update_of_ne different]
    exact completable.pending
  · rw [retired.reserved]
    exact completable.reserved

theorem Retired.calm
    (custody : VramCustody 0 registry)
    (retired : Retired registry after victim)
    (found : registry.findOperationVictim operationId = some victim) :
    Calm after operationId := by
  intro other foundOther
  obtain ⟨-, numbered, moving⟩ := victim_of_found foundOther
  rw [retired.catalog] at numbered moving
  have different : other ≠ victim := by
    rintro rfl
    simp [coldEntry] at moving
  rw [update_of_ne different] at numbered moving
  obtain ⟨slot, placed⟩ := Option.isSome_iff_exists.mp
    ((custody.ranked.credible other).placed
      ((custody.ranked.credible other).leaving moving))
  have again := custody.found_of_leaving
    (leaving_of_victim numbered moving placed)
  rw [found] at again
  exact absurd (Option.some.inj again).symm different

/-- The last part of an ordinary completion, its victim retired. -/
theorem publish_safe
    (completable : Completable registry gid slot operationId)
    (calm : Calm registry operationId)
    (unmarked : (registry.catalog gid).warmShadow = false) :
    Safe registry
      (if (registry.catalog gid).owner = .warmHost then
        match (registry.catalog gid).slotIdx with
        | none =>
          (Outcome.threw (.logicError
            ("ExpertRegistry: promotion completion lost its " ++
              "Warm source")) registry : Outcome Unit)
        | some source =>
          if registry.hostSlots source ≠ some gid then
            .threw (.logicError
              ("ExpertRegistry: promotion completion lost its " ++
                "Warm source")) registry
          else
            ((registry.releaseWarmSource source).publishHot
              gid slot).checkedValidate ()
      else
        (registry.publishHot gid slot).checkedValidate ()).registry := by
  have published := publishHot_safe completable calm unmarked
  split
  · split
    · exact completable.custody.safe
    · split
      · exact completable.custody.safe
      · rw [checkedValidate_registry]
        exact published.congr rfl
  · rw [checkedValidate_registry]
    exact published

theorem completeRequest_safe
    (custody : VramCustody 0 registry)
    (calm : ∀ gid, registry.findIncomingOperation operationId = some gid →
      (registry.catalog gid).warmShadow = true → Calm registry operationId) :
    Safe registry (registry.completeRequest operationId).registry := by
  unfold completeRequest
  split
  · exact custody.safe
  next gid found =>
    split
    · exact custody.safe
    · split
      · exact custody.safe
      next slot pending =>
        split
        · exact custody.safe
        next reserved =>
          have completable : Completable registry gid slot operationId :=
            ⟨custody, found, pending, Classical.byContradiction reserved⟩
          split
          next marked =>
            rw [checkedValidate_registry]
            exact publishShadow_safe completable (calm gid found marked) marked
          next unmarked =>
            have unmarked : (registry.catalog gid).warmShadow = false := by
              simpa using unmarked
            simp only
            split
            · exact custody.safe
            next uncopied =>
              cases foundVictim : registry.findOperationVictim operationId with
              | none =>
                refine publish_safe completable (fun victim found => ?_) unmarked
                simp [foundVictim] at found
              | some victim =>
                have retired := retireVictim_retired custody foundVictim
                have moving := (victim_of_found foundVictim).2.2
                exact retired.careful.then
                  (publish_safe (retired.completable moving completable)
                    (retired.calm custody foundVictim)
                    (retired.unmarked custody moving unmarked))

/-- A failed operation's victim and its reservation go in either order. -/
theorem releaseVictim_after_cancel
    {victim slot : Nat}
    (placed : (registry.catalog victim).slotIdx = some slot) :
    (registry.cancelVramReservation (some slot)).releaseVictim (some victim) =
      (registry.retireVictim (some victim)).cancelVramReservation (some slot) := by
  rcases owner : registry.vramSlots slot with _ | other
  · simp [cancelVramReservation, releaseVictim, retireVictim, setVramReservation,
      pushFreeVram, setEntry, placed, owner]
  · by_cases same : other = victim
    · subst same
      simp [cancelVramReservation, releaseVictim, retireVictim, setVramReservation,
        setVramSlot, pushFreeVram, setEntry, placed, owner]
    · simp [cancelVramReservation, releaseVictim, retireVictim, setVramReservation,
        setEntry, placed, owner, same]

section

variable
    (custody : VramCustody 0 registry)
    (found : registry.findIncomingOperation operationId = some gid)

include custody found

/-- An operation is given up: its expert is idle again, outside VRAM. -/
theorem cancel_safe
    (entry : CatalogEntry)
    {warm : List Nat}
    (tables : after.vramTables =
      ({ registry.cancelVramReservation (registry.catalog gid).pendingSlotIdx with
        catalog := update registry.catalog gid entry
        warmHostLru := warm } : ExpertRegistry).vramTables)
    (idle : entry.operation = .idle)
    (away : entry.owner ≠ .hotVram)
    (shadow : entry.shadowVramSlot = (registry.catalog gid).shadowVramSlot)
    (ranked : Ranked registry.totalExperts
      (update registry.catalog gid entry) registry.hotVramLru warm) :
    Safe registry after := by
  obtain ⟨-, -, moving⟩ := coming_of_found found
  have comes := stake_of_found found
  have within := within_of_settled (registry.catalog gid) entry idle away (.inr shadow)
  have spares : Spares registry.catalog
      (update registry.catalog gid entry) := by
    refine Spares.update _ (.inr ?_)
    rcases moving with reading | promoting
    · simp [reading]
    · simp [promoting]
  rw [cancelVramReservation_eq] at tables
  refine Careful.safe (Careful.congr ⟨⟨?_, ranked⟩, spares⟩ tables)
  change Custody (stakeOf ∘ update registry.catalog gid entry) _ _ _ _ _
  rw [stakes_setEntry]
  cases pending : (registry.catalog gid).pendingSlotIdx with
  | none => exact custody.custody.resign gid (stakeOf entry) within
  | some slot =>
    rw [pending] at comes
    have cancelled := custody.custody.cancel (stakeOf entry) comes within
      (by simp [stakeOf, idle])
    simp only [cancelVramReservation]
    split
    next empty =>
      rw [if_pos empty] at cancelled
      exact cancelled
    next owned =>
      rw [if_neg owned] at cancelled
      exact cancelled

/-- The last part of a failed request, its victim retired. -/
theorem giveUp_safe
    (unmarked : (registry.catalog gid).warmShadow = false)
    {released : ExpertRegistry}
    (cancelled : released = registry.cancelVramReservation
      (registry.catalog gid).pendingSlotIdx) :
    Safe registry
      (let returned :=
        if (released.catalog gid).owner = .warmHost then
          (released.setHostReservation
            ((released.catalog gid).slotIdx.getD 0) 0).pushWarmLruFront gid
        else
          released
      (returned.setEntry gid
        (failedEntry (returned.catalog gid))).checkedValidate ()).registry := by
  obtain ⟨-, -, moving⟩ := coming_of_found found
  have credible := custody.ranked.credible gid
  have notIdle : (registry.catalog gid).operation ≠ .idle := by
    rcases moving with reading | promoting
    · simp [reading]
    · simp [promoting]
  have away : (registry.catalog gid).owner ≠ .hotVram := by
    rcases moving with reading | promoting
    · exact credible.reading reading
    · simp [credible.promoting promoting]
  have catalog : released.catalog = registry.catalog := by
    rw [cancelled, cancelVramReservation_eq]
  have lists : released.warmHostLru = registry.warmHostLru := by
    rw [cancelled, cancelVramReservation_eq]
  simp only [checkedValidate_registry]
  split
  next warm =>
    let next : CatalogEntry :=
      { failedEntry (registry.catalog gid) with inLru := true }
    have owner : (registry.catalog gid).owner = .warmHost := catalog ▸ warm
    have ranked := custody.ranked.enlistWarm notIdle
      (show WarmRanked next from ⟨owner, rfl, rfl⟩) unmarked
      (registry.catalog gid).inLru
    refine cancel_safe custody found next ?_ rfl away rfl ranked
    simp [vramTables, setHostReservation, pushWarmLruFront, setEntry, catalog,
      lists, failedEntry, next, ← cancelled]
  next =>
    have ranked := custody.ranked.unlist (List.Sublist.refl _)
      (custody.ranked.notMem_hot (.inl away)) (List.Sublist.refl _)
      (custody.ranked.notMem_warm (.inr notIdle))
      (credible_of_settled _ _ (fun hot => absurd hot away) rfl unmarked :
        Credible _ gid (failedEntry (registry.catalog gid)))
    refine cancel_safe custody found (failedEntry (registry.catalog gid)) ?_ rfl
      away rfl ranked
    simp [vramTables, setEntry, catalog, lists, ← cancelled]

end

theorem failRequest_safe
    (custody : VramCustody 0 registry) :
    Safe registry (registry.failRequest operationId).registry := by
  unfold failRequest
  split
  · exact custody.safe
  next gid found =>
    obtain ⟨-, -, coming⟩ := coming_of_found found
    simp only
    split
    next marked =>
      let next : CatalogEntry :=
        { shadowedEntry (registry.catalog gid)
            (registry.catalog gid).shadowVramSlot with inLru := true }
      have credible := custody.ranked.credible gid
      have owner := credible.promoting (credible.shadowing marked)
      have ranked := custody.ranked.enlistWarm
        (show (registry.catalog gid).operation ≠ .idle by
          simp [credible.shadowing marked])
        (show WarmRanked next from ⟨owner, rfl, rfl⟩) rfl
        (registry.catalog gid).inLru
      rw [checkedValidate_registry]
      refine cancel_safe custody found next ?_ rfl (by simp [next, shadowedEntry, owner])
        rfl ranked
      rw [cancelVramReservation_eq]
      simp [vramTables, setEntry, pushWarmLruFront, shadowedEntry, next]
    next unmarked =>
      have unmarked : (registry.catalog gid).warmShadow = false := by
        simpa using unmarked
      split
      · exact custody.safe
      next uncopied =>
        cases foundVictim : registry.findOperationVictim operationId with
        | none => exact giveUp_safe custody found unmarked rfl
        | some victim =>
          have retired := retireVictim_retired custody foundVictim
          obtain ⟨-, numbered, moving⟩ := victim_of_found foundVictim
          obtain ⟨slot, placed⟩ := Option.isSome_iff_exists.mp
            ((custody.ranked.credible victim).placed
              ((custody.ranked.credible victim).leaving moving))
          have comes := stake_of_found found
          have pending : (registry.catalog gid).pendingSlotIdx = some slot :=
            custody.custody.shares gid victim operationId _ slot comes
              (leaving_of_victim numbered moving placed)
              ((custody.custody.backed gid).comes _ _ comes).1
          have different : gid ≠ victim := by
            rintro rfl
            simp [moving] at coming
          have kept : (registry.retireVictim (some victim)).catalog gid =
              registry.catalog gid := by
            rw [retired.catalog, update_of_ne different]
          refine retired.careful.then
            (giveUp_safe retired.careful.custody (retired.found moving found)
              (retired.unmarked custody moving unmarked) ?_)
          rw [kept, pending]
          exact releaseVictim_after_cancel placed

end Completions

end Aeon.Registry
