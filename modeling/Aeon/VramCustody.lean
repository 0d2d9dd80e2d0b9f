import Aeon.RegistryModeSwitches
import Aeon.RegistryNumbering
import Aeon.SlotCustody

namespace Aeon.Registry

open ExpertRegistry
open Aeon.SlotCustody

/-!
# Custody of the VRAM slots

`Accounts` describes a registry whose shadows are handled right.  What protects a
slot that a kernel may be reading is less than that and survives more: the tables
back every Hot resident, every shadow and every copy in flight, even where a thaw, a
drain or a dropped demotion has lost a slot.  This module reads the stakes of
`SlotCustody` off the catalog and says what each operation does to them.
-/

/-- What a catalog entry has to do with the VRAM slots. -/
def stakeOf (entry : CatalogEntry) : Stake where
  primary :=
    if entry.owner = .hotVram ∧ entry.operation = .idle then entry.slotIdx else none
  copy := entry.shadowVramSlot
  leaving :=
    if entry.operation = .demotionPending then
      entry.slotIdx.map fun slot => (entry.operationId, slot)
    else none
  copyingOut := entry.gpuTransfer == .d2hPending
  coming :=
    if entry.operation = .ioPending ∨ entry.operation = .promotionPending then
      some (entry.operationId, entry.pendingSlotIdx)
    else none

/-- A Hot list member is an idle Hot resident that knows its slot. -/
structure HotRanked (total gid : Nat) (entry : CatalogEntry) : Prop where
  inside : gid < total
  owner : entry.owner = .hotVram
  idle : entry.operation = .idle
  placed : entry.slotIdx.isSome
  listed : entry.inLru = true

/-- A Warm list member is an idle Warm resident. -/
structure WarmRanked (entry : CatalogEntry) : Prop where
  owner : entry.owner = .warmHost
  idle : entry.operation = .idle
  listed : entry.inLru = true

/-- What every catalog entry keeps to. -/
structure Credible (total gid : Nat) (entry : CatalogEntry) : Prop where
  placed : entry.owner = .hotVram → entry.slotIdx.isSome
  leaving : entry.operation = .demotionPending → entry.owner = .hotVram
  promoting : entry.operation = .promotionPending → entry.owner = .warmHost
  reading : entry.operation = .ioPending → entry.owner ≠ .hotVram
  shadowing : entry.warmShadow = true → entry.operation = .promotionPending
  outside : total ≤ gid → entry.operation = .idle

/-- The recency lists and the catalog agree. -/
structure Ranked
    (total : Nat)
    (catalog : Nat → CatalogEntry)
    (hot warm : List Nat) : Prop where
  hotOnce : hot.Nodup
  hot : ∀ gid ∈ hot, HotRanked total gid (catalog gid)
  warmOnce : warm.Nodup
  warm : ∀ gid ∈ warm, WarmRanked (catalog gid)
  credible : ∀ gid, Credible total gid (catalog gid)

/-- The VRAM tables back the catalog. -/
structure VramCustody
    (unplaced : Nat)
    (registry : ExpertRegistry) : Prop where
  custody :
    Custody (stakeOf ∘ registry.catalog) registry.vramSlots
      registry.vramSlotReservations registry.freeVramSlots
      registry.nextOperationId unplaced
  ranked :
    Ranked registry.totalExperts registry.catalog registry.hotVramLru
      registry.warmHostLru

/-- Everything `VramCustody` reads. -/
def ExpertRegistry.vramTables (registry : ExpertRegistry) :=
  (registry.totalExperts, registry.catalog, registry.vramSlots,
    registry.vramSlotReservations, registry.freeVramSlots,
    registry.nextOperationId, registry.hotVramLru, registry.warmHostLru)

/-- Host tables, counters and modes do not matter. -/
theorem VramCustody.congr
    {unplaced : Nat}
    {registry after : ExpertRegistry}
    (custody : VramCustody unplaced registry)
    (same : after.vramTables = registry.vramTables) :
    VramCustody unplaced after := by
  simp only [ExpertRegistry.vramTables, Prod.mk.injEq] at same
  obtain ⟨total, catalog, slots, reserved, free, issued, hot, warm⟩ := same
  constructor
  · rw [catalog, slots, reserved, free, issued]
    exact custody.custody
  · rw [total, catalog, hot, warm]
    exact custody.ranked

section Ranks

variable {total : Nat} {catalog : Nat → CatalogEntry} {hot warm : List Nat}

variable {entry : CatalogEntry}

section

variable
    (ranked : Ranked total catalog hot warm)
    {gid : Nat}

include ranked

theorem Ranked.replace
    {hotNext warmNext : List Nat}
    (hotOnce : hotNext.Nodup)
    (hotOld : ∀ other ∈ hotNext, other ≠ gid → other ∈ hot)
    (hotNew : gid ∈ hotNext → HotRanked total gid entry)
    (warmOnce : warmNext.Nodup)
    (warmOld : ∀ other ∈ warmNext, other ≠ gid → other ∈ warm)
    (warmNew : gid ∈ warmNext → WarmRanked entry)
    (credible : Credible total gid entry) :
    Ranked total (Function.update catalog gid entry) hotNext warmNext := by
  refine ⟨hotOnce, ?_, warmOnce, ?_, ?_⟩
  · intro other isHot
    by_cases same : other = gid
    · subst same
      simpa using hotNew isHot
    · simpa [same] using ranked.hot other (hotOld other isHot same)
  · intro other isWarm
    by_cases same : other = gid
    · subst same
      simpa using warmNew isWarm
    · simpa [same] using ranked.warm other (warmOld other isWarm same)
  · intro other
    by_cases same : other = gid
    · subst same
      simpa using credible
    · simpa [same] using ranked.credible other

/-- The fields the lists depend on are kept. -/
theorem Ranked.keep
    (owner : entry.owner = (catalog gid).owner)
    (slotIdx : entry.slotIdx = (catalog gid).slotIdx)
    (operation : entry.operation = (catalog gid).operation)
    (inLru : entry.inLru = (catalog gid).inLru)
    (warmShadow : entry.warmShadow = (catalog gid).warmShadow) :
    Ranked total (Function.update catalog gid entry) hot warm := by
  have credible := ranked.credible gid
  refine ranked.replace ranked.hotOnce (fun _ isHot _ => isHot) (fun isHot => ?_)
    ranked.warmOnce (fun _ isWarm _ => isWarm) (fun isWarm => ?_) ?_
  · obtain ⟨inside, isOwned, idle, placed, listed⟩ := ranked.hot gid isHot
    exact ⟨inside, owner.trans isOwned, operation.trans idle, slotIdx ▸ placed,
      inLru.trans listed⟩
  · obtain ⟨isOwned, idle, listed⟩ := ranked.warm gid isWarm
    exact ⟨owner.trans isOwned, operation.trans idle, inLru.trans listed⟩
  · constructor
    · rw [owner, slotIdx]
      exact credible.placed
    · rw [operation, owner]
      exact credible.leaving
    · rw [operation, owner]
      exact credible.promoting
    · rw [operation, owner]
      exact credible.reading
    · rw [warmShadow, operation]
      exact credible.shadowing
    · rw [operation]
      exact credible.outside

end

theorem credible_of_settled
    (total gid : Nat)
    (placed : entry.owner = .hotVram → entry.slotIdx.isSome)
    (idle : entry.operation = .idle)
    (unmarked : entry.warmShadow = false) :
    Credible total gid entry := by
  refine ⟨placed, ?_, ?_, ?_, ?_, ?_⟩ <;> simp [idle, unmarked]

section

variable
    (ranked : Ranked total catalog hot warm)
    {gid : Nat}

include ranked

/-- An idle expert has no shadow copy in flight. -/
theorem Ranked.unmarked
    (settled : (catalog gid).operation ≠ .promotionPending) :
    (catalog gid).warmShadow = false := by
  have shadowing := (ranked.credible gid).shadowing
  grind

theorem Ranked.unlist
    {hotNext warmNext : List Nat}
    (hotSub : hotNext.Sublist hot)
    (notHot : gid ∉ hotNext)
    (warmSub : warmNext.Sublist warm)
    (notWarm : gid ∉ warmNext)
    (credible : Credible total gid entry) :
    Ranked total (Function.update catalog gid entry) hotNext warmNext :=
  ranked.replace (hotSub.nodup ranked.hotOnce)
    (fun _ isHot _ => hotSub.subset isHot) (fun isHot => absurd isHot notHot)
    (warmSub.nodup ranked.warmOnce) (fun _ isWarm _ => warmSub.subset isWarm)
    (fun isWarm => absurd isWarm notWarm) credible

end

theorem notMem_removed
    {gid : Nat}
    {listed : Bool}
    {ranks : List Nat}
    (once : ranks.Nodup)
    (flagged : gid ∈ ranks → listed = true) :
    gid ∉ (if listed then ranks.erase gid else ranks) := by
  cases listed with
  | true => simpa using once.not_mem_erase
  | false =>
    intro isListed
    simpa using flagged (by simpa using isListed)

theorem removed_sublist
    (gid : Nat)
    (listed : Bool)
    (ranks : List Nat) :
    (if listed then ranks.erase gid else ranks).Sublist ranks := by
  cases listed with
  | true => exact List.erase_sublist
  | false => exact List.Sublist.refl ranks

section

variable
    (ranked : Ranked total catalog hot warm)
    {gid : Nat}

include ranked

theorem Ranked.notMem_hot
    (other : (catalog gid).owner ≠ .hotVram ∨ (catalog gid).operation ≠ .idle) :
    gid ∉ hot := by
  intro isHot
  have facts := ranked.hot gid isHot
  rcases other with owner | moving
  · exact owner facts.owner
  · exact moving facts.idle

theorem Ranked.notMem_warm
    (other : (catalog gid).owner ≠ .warmHost ∨ (catalog gid).operation ≠ .idle) :
    gid ∉ warm := by
  intro isWarm
  have facts := ranked.warm gid isWarm
  rcases other with owner | moving
  · exact owner facts.owner
  · exact moving facts.idle

theorem Ranked.enlistWarm
    (moving : (catalog gid).operation ≠ .idle)
    (facts : WarmRanked entry)
    (unmarked : entry.warmShadow = false)
    (listed : Bool) :
    Ranked total (Function.update catalog gid entry) hot
      (if listed then warm else gid :: warm) := by
  have notHot := ranked.notMem_hot (.inr moving)
  have notWarm := ranked.notMem_warm (.inr moving)
  have credible : Credible total gid entry :=
    credible_of_settled _ _ (by simp [facts.owner]) facts.idle unmarked
  cases listed with
  | true =>
    exact ranked.unlist (List.Sublist.refl _) notHot (List.Sublist.refl _) notWarm
      credible
  | false =>
    refine ranked.replace ranked.hotOnce (fun _ isHot _ => isHot)
      (fun isHot => absurd isHot notHot)
      (List.nodup_cons.mpr ⟨notWarm, ranked.warmOnce⟩)
      (fun other isWarm different => ?_) (fun _ => facts) credible
    exact (List.mem_cons.mp isWarm).resolve_left different

theorem Ranked.enlistHot
    (moving : (catalog gid).operation ≠ .idle)
    (facts : HotRanked total gid entry)
    (unmarked : entry.warmShadow = false)
    (listed : Bool) :
    Ranked total (Function.update catalog gid entry)
      (if listed then hot else gid :: hot) warm := by
  have notHot := ranked.notMem_hot (.inr moving)
  have notWarm := ranked.notMem_warm (.inr moving)
  have credible : Credible total gid entry :=
    credible_of_settled _ _ (fun _ => facts.placed) facts.idle unmarked
  cases listed with
  | true =>
    exact ranked.unlist (List.Sublist.refl _) notHot (List.Sublist.refl _) notWarm
      credible
  | false =>
    refine ranked.replace (List.nodup_cons.mpr ⟨notHot, ranked.hotOnce⟩)
      (fun other isHot different => ?_) (fun _ => facts) ranked.warmOnce
      (fun _ isWarm _ => isWarm) (fun isWarm => absurd isWarm notWarm) credible
    exact (List.mem_cons.mp isHot).resolve_left different

end

end Ranks

section Entries

variable {unplaced gid : Nat} {registry : ExpertRegistry}

@[simp] theorem stakes_setEntry
    (catalog : Nat → CatalogEntry)
    (gid : Nat)
    (entry : CatalogEntry) :
    stakeOf ∘ Function.update catalog gid entry =
      Function.update (stakeOf ∘ catalog) gid (stakeOf entry) :=
  Function.comp_update stakeOf catalog gid entry

variable {entry : CatalogEntry}

theorem sits_of_hot
    {slot : Nat}
    (owner : entry.owner = .hotVram)
    (idle : entry.operation = .idle)
    (placed : entry.slotIdx = some slot) :
    (stakeOf entry).Sits slot := by
  refine .inl ?_
  simp [stakeOf, owner, idle, placed]

theorem sits_of_shadow
    {slot : Nat}
    (shadow : entry.shadowVramSlot = some slot) :
    (stakeOf entry).Sits slot :=
  .inr shadow

/-- Fields nobody here reads change. -/
theorem VramCustody.setEntry_same
    (custody : VramCustody unplaced registry)
    (stake : stakeOf entry = stakeOf (registry.catalog gid))
    (owner : entry.owner = (registry.catalog gid).owner)
    (slotIdx : entry.slotIdx = (registry.catalog gid).slotIdx)
    (operation : entry.operation = (registry.catalog gid).operation)
    (inLru : entry.inLru = (registry.catalog gid).inLru)
    (warmShadow : entry.warmShadow = (registry.catalog gid).warmShadow) :
    VramCustody unplaced (registry.setEntry gid entry) := by
  constructor
  · have same : stakeOf ∘ (registry.setEntry gid entry).catalog =
        stakeOf ∘ registry.catalog := by
      rw [ExpertRegistry.setEntry, stakes_setEntry, stake]
      exact Function.update_eq_self gid (stakeOf ∘ registry.catalog)
    rw [same]
    exact custody.custody
  · exact custody.ranked.keep owner slotIdx operation inLru warmShadow

theorem within_of_settled
    (entry next : CatalogEntry)
    (idle : next.operation = .idle)
    (away : next.owner ≠ .hotVram)
    (shadow : next.shadowVramSlot = none ∨
      next.shadowVramSlot = entry.shadowVramSlot) :
    (stakeOf next).Within (stakeOf entry) := by
  constructor <;> simp [stakeOf, idle, away]
  rcases shadow with none | same
  · simp [none]
  · simp [same]

theorem left_of_settled
    (next : CatalogEntry)
    {slot : Nat}
    (idle : next.operation = .idle)
    (away : next.owner ≠ .hotVram)
    (shadow : next.shadowVramSlot ≠ some slot) :
    ¬ (stakeOf next).Sits slot ∧ ¬ (stakeOf next).Drains slot := by
  simp [Stake.Sits, Stake.Drains, stakeOf, idle, away, shadow]

theorem VramCustody.shadow_apart
    (custody : VramCustody unplaced registry)
    {slot : Nat}
    (uses : (stakeOf (registry.catalog gid)).primary = some slot ∨
      ∃ operation, (stakeOf (registry.catalog gid)).leaving =
        some (operation, slot)) :
    (registry.catalog gid).shadowVramSlot ≠ some slot := by
  intro shadow
  obtain ⟨notPrimary, notLeaving⟩ :=
    (custody.custody.backed gid).apart slot shadow
  rcases uses with primary | ⟨operation, leaving⟩
  · exact notPrimary primary
  · exact notLeaving operation leaving

end Entries

/-! ## Leased residents -/

/-- What an operation leaves of a leased, idle expert. -/
structure Spared (before after : CatalogEntry) : Prop where
  owner : after.owner = before.owner
  slotIdx : after.slotIdx = before.slotIdx
  operation : after.operation = before.operation
  shadowVramSlot : after.shadowVramSlot = before.shadowVramSlot
  leaseCount : before.leaseCount ≤ after.leaseCount

/-- Leased, idle experts stay where they are. -/
def Spares (before after : Nat → CatalogEntry) : Prop :=
  ∀ gid, 0 < (before gid).leaseCount → (before gid).operation = .idle →
    Spared (before gid) (after gid)

theorem Spares.refl (catalog : Nat → CatalogEntry) : Spares catalog catalog :=
  fun _ _ _ => ⟨rfl, rfl, rfl, rfl, Nat.le_refl _⟩

theorem Spares.trans
    {first second third : Nat → CatalogEntry}
    (before : Spares first second)
    (after : Spares second third) :
    Spares first third := by
  intro gid leased idle
  obtain ⟨owner, slotIdx, operation, shadow, leases⟩ := before gid leased idle
  obtain ⟨owner', slotIdx', operation', shadow', leases'⟩ :=
    after gid (Nat.lt_of_lt_of_le leased leases) (operation.trans idle)
  exact ⟨owner'.trans owner, slotIdx'.trans slotIdx, operation'.trans operation,
    shadow'.trans shadow, Nat.le_trans leases leases'⟩

section

variable
    {catalog : Nat → CatalogEntry}
    {gid : Nat}

theorem Spares.update
    (entry : CatalogEntry)
    (unheld : (catalog gid).leaseCount = 0 ∨ (catalog gid).operation ≠ .idle) :
    Spares catalog (Function.update catalog gid entry) := by
  intro other leased idle
  by_cases same : other = gid
  · subst same
    rcases unheld with unleased | moving
    · exact absurd leased (by simp [unleased])
    · exact absurd idle moving
  · rw [Function.update_of_ne same]
    exact Spares.refl catalog other leased idle

/-- Changing nothing that matters spares everyone. -/
theorem Spares.update_same
    {entry : CatalogEntry}
    (spared : Spared (catalog gid) entry) :
    Spares catalog (Function.update catalog gid entry) := by
  intro other leased idle
  by_cases same : other = gid
  · subst same
    rwa [Function.update_self]
  · rw [Function.update_of_ne same]
    exact Spares.refl catalog other leased idle

end

/-- An operation keeps the custody and spares the leased residents. -/
structure Careful
    (unplaced : Nat)
    (before after : ExpertRegistry) : Prop where
  custody : VramCustody unplaced after
  spares : Spares before.catalog after.catalog

theorem Careful.trans
    {unplaced unplaced' : Nat}
    {first second third : ExpertRegistry}
    (before : Careful unplaced first second)
    (after : Careful unplaced' second third) :
    Careful unplaced' first third :=
  ⟨after.custody, before.spares.trans after.spares⟩

theorem Careful.congr
    {unplaced : Nat}
    {before after next : ExpertRegistry}
    (careful : Careful unplaced before after)
    (same : next.vramTables = after.vramTables) :
    Careful unplaced before next := by
  refine ⟨careful.custody.congr same, ?_⟩
  have catalog : next.catalog = after.catalog :=
    congrArg (fun tables => tables.2.1) same
  rw [catalog]
  exact careful.spares

/-! ## Destinations -/

section Destinations

variable {unplaced gid slot : Nat} {registry : ExpertRegistry}

section

variable
    (custody : VramCustody unplaced registry)

include custody

theorem takeShadowSlot_careful
    (shadow : (registry.catalog gid).shadowVramSlot = some slot)
    (unleased : (registry.catalog gid).leaseCount = 0)
    (operationId : Nat) :
    Careful unplaced registry (registry.takeShadowSlot gid slot operationId) := by
  obtain ⟨notPrimary, notLeaving⟩ :=
    (custody.custody.backed gid).apart slot shadow
  refine ⟨⟨?_, ?_⟩, Spares.update _ (.inl unleased)⟩
  · have handed := custody.custody.handOver
      (stakeOf { registry.catalog gid with shadowVramSlot := none })
      (sits_of_shadow shadow) (by constructor <;> simp [stakeOf])
      ⟨fun sits => sits.elim notPrimary nofun,
        fun drains => drains.2.elim notLeaving⟩ operationId
    simpa [takeShadowSlot, releaseShadowResidency, setEntry, setVramSlot,
      setVramReservation] using handed
  · exact custody.ranked.keep rfl rfl rfl rfl rfl

theorem takeHotSlot_careful
    (isHot : gid ∈ registry.hotVramLru)
    (placed : (registry.catalog gid).slotIdx = some slot)
    (unleased : (registry.catalog gid).leaseCount = 0)
    (operationId : Nat) :
    Careful unplaced registry (registry.takeHotSlot gid slot operationId) := by
  have facts := custody.ranked.hot gid isHot
  have sits := sits_of_hot facts.owner facts.idle placed
  have apart := custody.shadow_apart
    (.inl (by simp [stakeOf, facts.owner, facts.idle, placed]) :
      (stakeOf (registry.catalog gid)).primary = some slot ∨ _)
  let next : CatalogEntry :=
    { registry.catalog gid with
      inLru := false
      owner := .coldNvme
      slotIdx := none
      pendingSlotIdx := none
      publication := .published
      slotState := .unallocated
      operation := .idle
      gpuTransfer := .idle }
  have tables : (registry.takeHotSlot gid slot operationId).vramTables =
      (registry.totalExperts, Function.update registry.catalog gid next,
        Function.update registry.vramSlots slot none,
        Function.update registry.vramSlotReservations slot operationId,
        registry.freeVramSlots, registry.nextOperationId,
        (if (registry.catalog gid).inLru then registry.hotVramLru.erase gid
          else registry.hotVramLru),
        registry.warmHostLru) := by
    simp [vramTables, takeHotSlot, removeFromHotLru, setEntry, setVramSlot,
      setVramReservation, next]
  simp only [vramTables, Prod.mk.injEq] at tables
  obtain ⟨total, catalog_eq, slots, reserved, free, issued, hot, warm⟩ := tables
  refine ⟨⟨?_, ?_⟩, ?_⟩
  · rw [catalog_eq, slots, reserved, free, issued, stakes_setEntry]
    exact custody.custody.handOver (stakeOf next) sits
      (within_of_settled _ next rfl (by simp [next]) (.inr rfl))
      (left_of_settled next rfl (by simp [next]) apart) operationId
  · rw [total, catalog_eq, hot, warm]
    exact custody.ranked.unlist (removed_sublist gid _ _)
      (notMem_removed custody.ranked.hotOnce fun _ => facts.listed)
      (List.Sublist.refl _)
      (custody.ranked.notMem_warm (.inl (by simp [facts.owner])))
      (credible_of_settled _ _ (by intro same; cases same) rfl
        (custody.ranked.unmarked (by simp [facts.idle])))
  · rw [catalog_eq]
    exact Spares.update _ (.inl unleased)

end

variable {after : ExpertRegistry}
variable {operationId incomingGid : Nat}

theorem dropWarm_careful
    (custody : VramCustody unplaced registry)
    (entry : CatalogEntry)
    (owner : (registry.catalog gid).owner = .warmHost)
    (idle : (registry.catalog gid).operation = .idle)
    (unleased : (registry.catalog gid).leaseCount = 0)
    (cold : entry.owner = .coldNvme)
    (settled : entry.operation = .idle)
    (shadow : entry.shadowVramSlot = (registry.catalog gid).shadowVramSlot)
    (copying : entry.gpuTransfer = (registry.catalog gid).gpuTransfer)
    (marked : entry.warmShadow = (registry.catalog gid).warmShadow)
    (tables : after.vramTables =
      ({ registry.removeFromWarmLru gid with
        catalog := Function.update registry.catalog gid entry } :
          ExpertRegistry).vramTables) :
    Careful unplaced registry after ∧
      stakeOf ∘ after.catalog = stakeOf ∘ registry.catalog := by
  have stake : stakeOf entry = stakeOf (registry.catalog gid) := by
    simp [stakeOf, owner, idle, cold, settled, shadow, copying]
  have same : stakeOf ∘ Function.update registry.catalog gid entry =
      stakeOf ∘ registry.catalog := by
    rw [stakes_setEntry, stake]
    exact Function.update_eq_self gid (stakeOf ∘ registry.catalog)
  have catalog_eq : after.catalog = Function.update registry.catalog gid entry :=
    congrArg (fun tables => tables.2.1) tables
  refine ⟨⟨VramCustody.congr ⟨?_, ?_⟩ tables, ?_⟩, ?_⟩
  · change Custody (stakeOf ∘ Function.update registry.catalog gid entry) _ _ _ _ _
    rw [same]
    exact custody.custody
  · exact custody.ranked.unlist (List.Sublist.refl _)
      (custody.ranked.notMem_hot (.inl (by simp [owner])))
      (removed_sublist gid _ _)
      (notMem_removed custody.ranked.warmOnce fun isWarm =>
        (custody.ranked.warm gid isWarm).listed)
      (credible_of_settled _ _ (by simp [cold]) settled
        (marked.trans (custody.ranked.unmarked (by simp [idle]))))
  · rw [catalog_eq]
    exact Spares.update _ (.inl unleased)
  · rw [catalog_eq, same]

/-- What looking for a Warm destination leaves of the VRAM side. -/
structure WarmSearch (excludedGid : Nat) (registry after : ExpertRegistry) :
    Prop where
  stakes : stakeOf ∘ after.catalog = stakeOf ∘ registry.catalog
  slots : after.vramSlots = registry.vramSlots
  reserved : after.vramSlotReservations = registry.vramSlotReservations
  kept : ∀ gid, gid = excludedGid ∨ (registry.catalog gid).operation ≠ .idle →
    after.catalog gid = registry.catalog gid

theorem reserveWarmDestination_careful
    (custody : VramCustody unplaced registry)
    (excludedGid operationId : Nat) :
    Careful unplaced registry
        (registry.reserveWarmDestination excludedGid operationId).2 ∧
      WarmSearch excludedGid registry
        (registry.reserveWarmDestination excludedGid operationId).2 := by
  unfold reserveWarmDestination
  cases registry.freeHostSlots with
  | cons slot rest =>
    exact ⟨⟨custody.congr rfl, Spares.refl _⟩, rfl, rfl, rfl, fun _ _ => rfl⟩
  | nil =>
    cases found : registry.warmHostLru.reverse.find?
        (registry.warmReclaimable excludedGid) with
    | none => exact ⟨⟨custody, Spares.refl _⟩, rfl, rfl, rfl, fun _ _ => rfl⟩
    | some gid =>
      have isWarm : gid ∈ registry.warmHostLru :=
        List.mem_reverse.mp (List.mem_of_find?_eq_some found)
      have facts := custody.ranked.warm gid isWarm
      have reclaimable := List.find?_some found
      simp only [warmReclaimable, Bool.not_eq_true', Bool.or_eq_false_iff,
        beq_eq_false_iff_ne, bne_eq_false_iff_eq] at reclaimable
      obtain ⟨⟨⟨⟨other, -⟩, -⟩, -⟩, unleased⟩ := reclaimable
      let next : CatalogEntry :=
        { registry.catalog gid with
          inLru := false
          owner := .coldNvme
          slotIdx := none
          pendingSlotIdx := none
          slotState := .unallocated }
      have tables : (registry.takeWarmSlot gid
          ((registry.catalog gid).slotIdx.getD 0) operationId).vramTables =
          ({ registry.removeFromWarmLru gid with
            catalog := Function.update registry.catalog gid next } :
              ExpertRegistry).vramTables := by
        simp [vramTables, takeWarmSlot, removeFromWarmLru, setEntry,
          setHostSlot, setHostReservation, next]
      obtain ⟨careful, stakes⟩ := dropWarm_careful custody next facts.owner
        facts.idle unleased rfl facts.idle rfl rfl rfl tables
      simp only [vramTables, removeFromWarmLru, Prod.mk.injEq] at tables
      obtain ⟨-, catalog_eq, slots, reserved, -⟩ := tables
      refine ⟨careful, stakes, ?_, ?_, fun third kept => ?_⟩
      · exact slots.trans (by simp [setEntry])
      · exact reserved.trans (by simp [setEntry])
      have different : third ≠ gid := by
        rintro rfl
        rcases kept with excluded | moving
        · exact other excluded
        · exact moving facts.idle
      simp [takeWarmSlot, removeFromWarmLru, setEntry, setHostSlot,
        setHostReservation, different]

theorem markVictim_careful
    {operationId : Nat}
    (custody : VramCustody operationId registry)
    (isHot : gid ∈ registry.hotVramLru)
    (placed : (registry.catalog gid).slotIdx = some slot)
    (unleased : (registry.catalog gid).leaseCount = 0)
    (fresh : ∀ other otherSlot,
      (stakeOf (registry.catalog other)).leaving ≠ some (operationId, otherSlot))
    (numbered : operationId ≠ 0 ∧ operationId < registry.nextOperationId) :
    Careful operationId registry (registry.markVictim gid slot operationId) := by
  have facts := custody.ranked.hot gid isHot
  have unmarked := custody.ranked.unmarked
    (show (registry.catalog gid).operation ≠ .promotionPending by
      simp [facts.idle])
  let next : CatalogEntry :=
    { registry.catalog gid with
      inLru := false
      operation := .demotionPending
      operationId := operationId
      publication := .unpublished
      slotState := .active
      pendingSlotIdx := none
      gpuTransfer := .idle }
  have catalog_eq : (registry.markVictim gid slot operationId).catalog =
      Function.update registry.catalog gid next := by
    simp [markVictim, removeFromHotLru, setEntry, setVramReservation, next]
  refine ⟨⟨?_, ?_⟩, ?_⟩
  · rw [catalog_eq, stakes_setEntry]
    have marked := custody.custody.mark
      (show (stakeOf (registry.catalog gid)).primary = some slot by
        simp [stakeOf, facts.owner, facts.idle, placed]) fresh numbered
    have stake : stakeOf next =
        { copy := (stakeOf (registry.catalog gid)).copy,
          leaving := some (operationId, slot) } := by
      simp [stakeOf, next, placed]
    rw [stake]
    exact marked
  · rw [catalog_eq]
    refine custody.ranked.unlist (removed_sublist gid _ _)
      (notMem_removed custody.ranked.hotOnce fun _ => facts.listed)
      (List.Sublist.refl _)
      (custody.ranked.notMem_warm (.inl (by simp [facts.owner]))) ?_
    exact ⟨fun _ => facts.placed, fun _ => facts.owner, by simp [next],
      by simp [next], by simp [next, unmarked],
      fun outside => absurd facts.inside (Nat.not_lt.mpr outside)⟩
  · rw [catalog_eq]
    exact Spares.update _ (.inl unleased)

/-- The victim of an operation, still in its slot. -/
structure Marked
    (registry : ExpertRegistry)
    (gid slot operationId : Nat) : Prop where
  operation : (registry.catalog gid).operation = .demotionPending
  numbered : (registry.catalog gid).operationId = operationId
  placed : (registry.catalog gid).slotIdx = some slot
  owns : registry.vramSlots slot = some gid
  reserved : registry.vramSlotReservations slot = operationId

/-- A victim's copy out does or does not start. -/
theorem setTransfer_careful
    {operationId : Nat}
    (custody : VramCustody unplaced registry)
    (marked : Marked registry gid slot operationId)
    (transfer : ExpertGpuTransfer)
    (reason : ExpertDemotionDropReason) :
    Careful unplaced registry
      (registry.setEntry gid
        { registry.catalog gid with
          gpuTransfer := transfer
          demotionDropReason := reason }) := by
  have leaves : (stakeOf (registry.catalog gid)).leaving =
      some (operationId, slot) := by
    simp [stakeOf, marked.operation, marked.placed, marked.numbered]
  refine ⟨⟨?_, custody.ranked.keep rfl rfl rfl rfl rfl⟩,
    Spares.update _ (.inr (by simp [marked.operation]))⟩
  rw [setEntry, stakes_setEntry]
  by_cases copies : transfer = .d2hPending
  · have drained := custody.custody.drain leaves marked.owns marked.reserved
    have stake : stakeOf { registry.catalog gid with
        gpuTransfer := transfer, demotionDropReason := reason } =
        { stakeOf (registry.catalog gid) with copyingOut := true } := by
      simp [stakeOf, copies]
    rw [stake]
    exact drained
  · refine custody.custody.resign gid _ ?_
    constructor <;> simp [stakeOf, copies]

/-- What settling a victim leaves as it was. -/
structure VictimSettled
    (incomingGid : Nat)
    (registry after : ExpertRegistry) : Prop where
  reserved : after.vramSlotReservations = registry.vramSlotReservations
  leaving : ∀ other, (stakeOf (after.catalog other)).leaving =
    (stakeOf (registry.catalog other)).leaving
  coming : ∀ other, (stakeOf (after.catalog other)).coming =
    (stakeOf (registry.catalog other)).coming
  incoming : after.catalog incomingGid = registry.catalog incomingGid

theorem setTransfer_settled
    {incomingGid : Nat}
    (different : incomingGid ≠ gid)
    (transfer : ExpertGpuTransfer)
    (reason : ExpertDemotionDropReason) :
    VictimSettled incomingGid registry
      (registry.setEntry gid
        { registry.catalog gid with
          gpuTransfer := transfer
          demotionDropReason := reason }) := by
  refine ⟨rfl, fun other => ?_, fun other => ?_, ?_⟩
  · by_cases same : other = gid
    · subst same
      simp [setEntry, stakeOf]
    · simp [setEntry, same]
  · by_cases same : other = gid
    · subst same
      simp [setEntry, stakeOf]
    · simp [setEntry, same]
  · simp [setEntry, different]

theorem VictimSettled.trans
    {incomingGid : Nat}
    {first second third : ExpertRegistry}
    (before : VictimSettled incomingGid first second)
    (after : VictimSettled incomingGid second third) :
    VictimSettled incomingGid first third :=
  ⟨after.reserved.trans before.reserved,
    fun other => (after.leaving other).trans (before.leaving other),
    fun other => (after.coming other).trans (before.coming other),
    after.incoming.trans before.incoming⟩

theorem WarmSearch.settled
    {excludedGid : Nat}
    (search : WarmSearch excludedGid registry after) :
    VictimSettled excludedGid registry after := by
  have stakes : ∀ other, stakeOf (after.catalog other) =
      stakeOf (registry.catalog other) := congrFun search.stakes
  exact ⟨search.reserved, fun other => by rw [stakes other],
    fun other => by rw [stakes other], search.kept excludedGid (.inl rfl)⟩

theorem Marked.search
    {operationId excludedGid : Nat}
    (marked : Marked registry gid slot operationId)
    (search : WarmSearch excludedGid registry after) :
    Marked after gid slot operationId := by
  have entry : after.catalog gid = registry.catalog gid :=
    search.kept gid (.inr (by simp [marked.operation]))
  refine ⟨?_, ?_, ?_, ?_, ?_⟩
  · rw [entry]
    exact marked.operation
  · rw [entry]
    exact marked.numbered
  · rw [entry]
    exact marked.placed
  · rw [search.slots]
    exact marked.owns
  · rw [search.reserved]
    exact marked.reserved

/-- A victim is settled: nobody moved, and the leased residents are spared. -/
structure Settles
    (unplaced incomingGid : Nat)
    (registry after : ExpertRegistry) : Prop where
  careful : Careful unplaced registry after
  settled : VictimSettled incomingGid registry after

theorem Settles.trans
    {incomingGid : Nat}
    {first second third : ExpertRegistry}
    (before : Settles unplaced incomingGid first second)
    (after : Settles unplaced incomingGid second third) :
    Settles unplaced incomingGid first third :=
  ⟨before.careful.trans after.careful, before.settled.trans after.settled⟩

section

variable
    (custody : VramCustody unplaced registry)
    (marked : Marked registry gid slot operationId)
    (different : incomingGid ≠ gid)

include custody marked different

theorem dropVictim_settles
    (reason : ExpertDemotionDropReason) :
    Settles unplaced incomingGid registry (registry.dropVictim gid reason) := by
  have settled : VictimSettled incomingGid registry (registry.setEntry gid _) :=
    setTransfer_settled different .idle reason
  obtain ⟨reserved, leaving, coming, incoming⟩ := settled
  exact ⟨(setTransfer_careful custody marked .idle reason).congr rfl,
    reserved, leaving, coming, incoming⟩

theorem startDemotion_settles :
    Settles unplaced incomingGid registry (registry.startDemotion gid) := by
  have settled : VictimSettled incomingGid registry (registry.setEntry gid _) :=
    setTransfer_settled different .d2hPending .unspecified
  obtain ⟨reserved, leaving, coming, incoming⟩ := settled
  exact ⟨(setTransfer_careful custody marked .d2hPending .unspecified).congr rfl,
    reserved, leaving, coming, incoming⟩

theorem demoteVictim_settles
    (capacity : Nat) :
    (registry.demoteVictim gid slot incomingGid operationId
        capacity).1.vramSlot = slot ∧
      Settles unplaced incomingGid registry
        (registry.demoteVictim gid slot incomingGid operationId capacity).2 := by
  unfold demoteVictim
  split
  · exact ⟨rfl, ⟨custody, Spares.refl _⟩, rfl, fun _ => rfl, fun _ => rfl, rfl⟩
  · have attempted : Settles unplaced incomingGid registry
        { registry with demotionAttempts := registry.demotionAttempts + 1 } :=
      ⟨⟨custody.congr rfl, Spares.refl _⟩, rfl, fun _ => rfl, fun _ => rfl, rfl⟩
    have attemptedMarked : Marked
        { registry with demotionAttempts := registry.demotionAttempts + 1 }
        gid slot operationId :=
      ⟨marked.operation, marked.numbered, marked.placed, marked.owns,
        marked.reserved⟩
    simp only
    split
    · exact ⟨rfl, attempted.trans
        (dropVictim_settles attempted.careful.custody attemptedMarked different _)⟩
    · obtain ⟨careful, search⟩ := reserveWarmDestination_careful
        attempted.careful.custody incomingGid operationId
      have searched := attempted.trans ⟨careful, search.settled⟩
      have stillMarked := attemptedMarked.search search
      split
      next after found =>
        rw [found] at searched stillMarked
        exact ⟨rfl, searched.trans
          (dropVictim_settles searched.careful.custody stillMarked different _)⟩
      next destination after found =>
        rw [found] at searched stillMarked
        exact ⟨rfl, searched.trans
          (startDemotion_settles searched.careful.custody stillMarked different)⟩

end

/-- What `reserve_vram_destination` hands to an operation. -/
structure Destined
    (registry after : ExpertRegistry)
    (incomingGid slot operationId : Nat) : Prop where
  careful : Careful operationId registry after
  reserved : after.vramSlotReservations slot = operationId
  victims : ∀ other otherSlot,
    (stakeOf (after.catalog other)).leaving = some (operationId, otherSlot) →
      otherSlot = slot
  coming : ∀ other, (stakeOf (after.catalog other)).coming =
    (stakeOf (registry.catalog other)).coming
  incoming : { after.catalog incomingGid with shadowVramSlot := none } =
    { registry.catalog incomingGid with shadowVramSlot := none }

/-- Nobody is leaving for an operation. -/
def NobodyLeaves (registry : ExpertRegistry) (operationId : Nat) : Prop :=
  ∀ other slot,
    (stakeOf (registry.catalog other)).leaving ≠ some (operationId, slot)

theorem Destined.of_release
    {entry : CatalogEntry}
    (careful : Careful operationId registry after)
    (fresh : NobodyLeaves registry operationId)
    (reserved : after.vramSlotReservations slot = operationId)
    (catalog : after.catalog = Function.update registry.catalog gid entry)
    (idle : entry.operation = .idle)
    (wasIdle : (registry.catalog gid).operation = .idle)
    (incoming : gid = incomingGid →
      entry = { registry.catalog gid with shadowVramSlot := none }) :
    Destined registry after incomingGid slot operationId := by
  refine ⟨careful, reserved, fun other otherSlot leaves => ?_, fun other => ?_, ?_⟩
  · rw [catalog] at leaves
    by_cases same : other = gid
    · subst same
      simp [stakeOf, idle] at leaves
    · rw [Function.update_of_ne same] at leaves
      exact absurd leaves (fresh other otherSlot)
  · rw [catalog]
    by_cases same : other = gid
    · subst same
      simp [stakeOf, idle, wasIdle]
    · rw [Function.update_of_ne same]
  · rw [catalog]
    by_cases same : incomingGid = gid
    · rw [same, Function.update_self, incoming same.symm]
    · rw [Function.update_of_ne same]

theorem evictForPrefill_destined
    (custody : VramCustody operationId registry)
    (fresh : NobodyLeaves registry operationId)
    {destination : VramDestination}
    (evicted : registry.evictForPrefill incomingGid operationId =
      .returned destination after) :
    Destined registry after incomingGid destination.vramSlot operationId := by
  unfold evictForPrefill at evicted
  split at evicted
  next gid found =>
    obtain ⟨rfl, rfl⟩ := Outcome.returned.inj evicted
    have reclaimable := List.find?_some found
    simp only [shadowReclaimable, Bool.not_eq_true', Bool.or_eq_false_iff,
      bne_eq_false_iff_eq, Option.isNone_eq_false_iff] at reclaimable
    obtain ⟨⟨⟨shadowed, unleased⟩, idle⟩, -⟩ := reclaimable
    obtain ⟨slot, shadow⟩ := Option.isSome_iff_exists.mp shadowed
    simp only [shadow, Option.getD_some]
    refine Destined.of_release
      (takeShadowSlot_careful custody shadow unleased operationId) fresh ?_
      (show _ = Function.update registry.catalog gid
        { registry.catalog gid with shadowVramSlot := none } from rfl) idle idle
      (fun _ => rfl)
    simp [takeShadowSlot, setVramReservation]
  next missing =>
    split at evicted
    next gid found =>
      obtain ⟨rfl, rfl⟩ := Outcome.returned.inj evicted
      have isHot : gid ∈ registry.hotVramLru :=
        List.mem_reverse.mp (List.mem_of_find?_eq_some found)
      have facts := custody.ranked.hot gid isHot
      have reclaimable := List.find?_some found
      simp only [hotReclaimable, Bool.not_eq_true', Bool.or_eq_false_iff,
        beq_eq_false_iff_ne, bne_eq_false_iff_eq] at reclaimable
      obtain ⟨⟨⟨⟨⟨other, -⟩, -⟩, -⟩, -⟩, unleased⟩ := reclaimable
      obtain ⟨slot, placed⟩ := Option.isSome_iff_exists.mp facts.placed
      simp only [placed, Option.getD_some]
      refine Destined.of_release
        (takeHotSlot_careful custody isHot placed unleased operationId) fresh ?_
        (show _ = Function.update registry.catalog gid _ by
          simp [takeHotSlot, removeFromHotLru, setEntry, setVramSlot,
            setVramReservation]; rfl) rfl facts.idle
        (fun same => absurd same other)
      simp [takeHotSlot, setVramReservation]
    next => cases evicted

theorem popFree_destined
    {rest : List Nat}
    (custody : VramCustody operationId registry)
    (fresh : NobodyLeaves registry operationId)
    (free : registry.freeVramSlots = slot :: rest) :
    Destined registry
      ({ registry with freeVramSlots := rest }.setVramReservation slot operationId)
      incomingGid slot operationId := by
  have tables := custody.custody
  rw [free] at tables
  obtain ⟨popped, taken, empty, untaken⟩ := tables.pop
  refine ⟨⟨⟨popped.reserve slot (fun other => ?_) taken operationId,
    custody.ranked⟩, Spares.refl _⟩, ?_, fun other otherSlot leaves => ?_,
    fun _ => rfl, rfl⟩
  · obtain ⟨notSits, notDrains⟩ := popped.unused_of_empty empty other
    exact ⟨notSits, notDrains, popped.not_claims_of_unreserved untaken other⟩
  · simp [setVramReservation]
  · exact absurd leaves (fresh other otherSlot)

/-- A decode eviction: a victim is marked and what becomes of its bytes decided. -/
theorem demote_destined
    (custody : VramCustody operationId registry)
    (fresh : NobodyLeaves registry operationId)
    (numbered : operationId ≠ 0 ∧ operationId < registry.nextOperationId)
    (isHot : gid ∈ registry.hotVramLru)
    (placed : (registry.catalog gid).slotIdx = some slot)
    (unleased : (registry.catalog gid).leaseCount = 0)
    (different : incomingGid ≠ gid)
    (capacity : Nat) :
    ((registry.markVictim gid slot operationId).demoteVictim gid slot incomingGid
        operationId capacity).1.vramSlot = slot ∧
      Destined registry
        ((registry.markVictim gid slot operationId).demoteVictim gid slot
          incomingGid operationId capacity).2
        incomingGid slot operationId := by
  have facts := custody.ranked.hot gid isHot
  have careful := markVictim_careful custody isHot placed unleased fresh numbered
  have owns : registry.vramSlots slot = some gid :=
    custody.custody.owner_of_sits
      (.inl (sits_of_hot facts.owner facts.idle placed))
  have marked : Marked (registry.markVictim gid slot operationId) gid slot
      operationId := by
    refine ⟨?_, ?_, ?_, owns, ?_⟩ <;>
      simp [markVictim, removeFromHotLru, setEntry, setVramReservation, placed]
  have others : ∀ other, other ≠ gid →
      (registry.markVictim gid slot operationId).catalog other =
        registry.catalog other := by
    intro other away
    simp [markVictim, removeFromHotLru, setEntry, setVramReservation, away]
  obtain ⟨slot_eq, settles⟩ :=
    demoteVictim_settles careful.custody marked different capacity
  refine ⟨slot_eq, careful.trans settles.careful, ?_, ?_, ?_, ?_⟩
  · rw [settles.settled.reserved]
    exact marked.reserved
  · intro other otherSlot leaves
    rw [settles.settled.leaving] at leaves
    by_cases same : other = gid
    · subst same
      simpa [stakeOf, marked.operation, marked.placed, marked.numbered] using
        leaves.symm
    · rw [others other same] at leaves
      exact absurd leaves (fresh other otherSlot)
  · intro other
    rw [settles.settled.coming]
    by_cases same : other = gid
    · subst same
      simp [stakeOf, marked.operation, facts.idle]
    · rw [others other same]
  · rw [settles.settled.incoming, others incomingGid different]

theorem reserveVramDestination_destined
    {operationId incomingGid capacity : Nat}
    (custody : VramCustody operationId registry)
    (fresh : NobodyLeaves registry operationId)
    (numbered : operationId ≠ 0 ∧ operationId < registry.nextOperationId)
    {destination : VramDestination}
    (reserved : registry.reserveVramDestination incomingGid operationId capacity =
      .returned destination after) :
    Destined registry after incomingGid destination.vramSlot operationId := by
  unfold reserveVramDestination at reserved
  split at reserved
  next slot rest free =>
    obtain ⟨rfl, rfl⟩ := Outcome.returned.inj reserved
    exact popFree_destined custody fresh free
  next =>
    split at reserved
    · exact nomatch reserved
    · split at reserved
      · exact evictForPrefill_destined custody fresh reserved
      · split at reserved
        · exact nomatch reserved
        next gid found =>
          have isHot : gid ∈ registry.hotVramLru :=
            List.mem_reverse.mp (List.mem_of_find?_eq_some found)
          have facts := custody.ranked.hot gid isHot
          have reclaimable := List.find?_some found
          simp only [hotReclaimable, Bool.not_eq_true', Bool.or_eq_false_iff,
            beq_eq_false_iff_ne, bne_eq_false_iff_eq] at reclaimable
          obtain ⟨⟨⟨⟨⟨other, -⟩, -⟩, -⟩, -⟩, unleased⟩ := reclaimable
          obtain ⟨slot, placed⟩ := Option.isSome_iff_exists.mp facts.placed
          have demoted := demote_destined custody fresh numbered isHot placed
            unleased (fun same => other same.symm) capacity
          simp only [placed, Option.getD_some] at reserved
          rcases settled : (registry.markVictim gid slot operationId).demoteVictim
            gid slot incomingGid operationId capacity with ⟨chosen, final⟩
          rw [settled] at reserved demoted
          obtain ⟨rfl, rfl⟩ := Outcome.returned.inj reserved
          rw [demoted.1]
          exact demoted.2

end Destinations

end Aeon.Registry
