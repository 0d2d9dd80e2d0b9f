import Aeon.LeasedResidents

namespace Aeon.Registry

open ExpertRegistry
open Aeon.SlotCustody
open Function (update update_eq_self)

/-!
# A leased resident stays through every run

The mode switches, the per-layer release, the thaw and the host boundary moves keep
the custody of the VRAM slots as the requests and completions do.  With the load as
the first state this gives the whole run: as long as no shadow copy is completed
while its operation's victim is still being copied out, no operation of any kind
takes the slot of a leased resident.
-/

variable {registry : ExpertRegistry} {gid : Nat}

/-! ## The prefill stream -/

theorem Ranked.keepAll
    {total : Nat}
    {catalog : Nat → CatalogEntry}
    {hot warm : List Nat}
    (ranked : Ranked total catalog hot warm)
    (next : CatalogEntry → CatalogEntry)
    (owner : ∀ entry, (next entry).owner = entry.owner)
    (slotIdx : ∀ entry, (next entry).slotIdx = entry.slotIdx)
    (operation : ∀ entry, (next entry).operation = entry.operation)
    (inLru : ∀ entry, (next entry).inLru = entry.inLru)
    (warmShadow : ∀ entry, (next entry).warmShadow = true →
      entry.warmShadow = true) :
    Ranked total (fun gid => next (catalog gid)) hot warm := by
  refine ⟨ranked.hotOnce, fun gid isHot => ?_, ranked.warmOnce,
    fun gid isWarm => ?_, fun gid => ?_⟩
  · obtain ⟨inside, isOwned, idle, placed, listed⟩ := ranked.hot gid isHot
    exact ⟨inside, (owner _).trans isOwned, (operation _).trans idle,
      (congrArg Option.isSome (slotIdx _)).trans placed,
      (inLru _).trans listed⟩
  · obtain ⟨isOwned, idle, listed⟩ := ranked.warm gid isWarm
    exact ⟨(owner _).trans isOwned, (operation _).trans idle,
      (inLru _).trans listed⟩
  · have credible := ranked.credible gid
    refine ⟨?_, ?_, ?_, ?_, fun marked => ?_, ?_⟩
    · rw [owner, slotIdx]
      exact credible.placed
    · rw [operation, owner]
      exact credible.leaving
    · rw [operation, owner]
      exact credible.promoting
    · rw [operation, owner]
      exact credible.reading
    · rw [operation]
      exact credible.shadowing (warmShadow _ marked)
    · rw [operation]
      exact credible.outside

/-- What the entry checks of a prefill stream have seen. -/
theorem quiet_of_boundary
    (custody : VramCustody 0 registry)
    (clear : registry.boundaryViolation = none) :
    (∀ gid, (registry.catalog gid).operation = .idle) ∧
      ∀ gid < registry.totalExperts, (registry.catalog gid).leaseCount = 0 := by
  unfold boundaryViolation at clear
  rw [List.findSome?_eq_none_iff] at clear
  have checked : ∀ gid < registry.totalExperts,
      (registry.catalog gid).leaseCount = 0 ∧
        (registry.catalog gid).operation = .idle := by
    intro gid inside
    have entry := clear gid (List.mem_range.mpr inside)
    split at entry
    · contradiction
    next unleased =>
      split at entry
      · contradiction
      next idle => exact ⟨not_not.mp unleased, not_not.mp idle⟩
  refine ⟨fun gid => ?_, fun gid inside => (checked gid inside).1⟩
  by_cases inside : gid < registry.totalExperts
  · exact (checked gid inside).2
  · exact (custody.ranked.credible gid).outside (Nat.le_of_not_lt inside)

theorem markResidents_custody
    (custody : VramCustody 0 registry)
    (idle : ∀ gid, (registry.catalog gid).operation = .idle) :
    VramCustody 0 registry.markResidents := by
  constructor
  · refine custody.custody.unreserveAll _ (fun gid => ?_) (fun gid => ?_)
      (fun gid => ?_)
    · constructor <;> simp [markResidents, stakeOf, idle gid]
    · simp [markResidents, stakeOf, idle gid]
    · simp [markResidents, stakeOf, idle gid]
  · exact custody.ranked.keepAll
      (fun entry =>
        { entry with
          residentAtPrefillBegin := entry.owner == .hotVram
          pendingSlotIdx := none
          warmShadow := false
          shadowVramSlot := none })
      (fun _ => rfl) (fun _ => rfl) (fun _ => rfl) (fun _ => rfl)
      (fun _ marked => absurd marked Bool.false_ne_true)

variable {slot : Nat}

section

variable
    (custody : VramCustody 0 registry)

include custody

theorem leaveVram_custody
    (owner : (registry.catalog gid).owner = .hotVram)
    (idle : (registry.catalog gid).operation = .idle)
    (placed : (registry.catalog gid).slotIdx = some slot)
    {after : ExpertRegistry}
    (entry : CatalogEntry)
    {hot : List Nat}
    (tables : after.vramTables =
      ({ registry with
        catalog := update registry.catalog gid entry
        vramSlots := update registry.vramSlots slot none
        freeVramSlots := slot :: registry.freeVramSlots
        hotVramLru := hot } : ExpertRegistry).vramTables)
    (hotSub : hot.Sublist registry.hotVramLru)
    (unlisted : gid ∉ hot)
    (cold : entry.owner = .coldNvme)
    (settled : entry.operation = .idle)
    (marked : entry.warmShadow = (registry.catalog gid).warmShadow)
    (shadow : entry.shadowVramSlot = (registry.catalog gid).shadowVramSlot) :
    VramCustody 0 after := by
  have sits := sits_of_hot owner idle placed
  have apart := custody.shadow_apart
    (.inl (by simp [stakeOf, owner, idle, placed]) :
      (stakeOf (registry.catalog gid)).primary = some slot ∨ _)
  have away : entry.owner ≠ .hotVram := by simp [cold]
  refine VramCustody.congr ⟨?_, ?_⟩ tables
  · change Custody (stakeOf ∘ update registry.catalog gid entry) _ _ _ _ _
    rw [stakes_setEntry]
    exact custody.custody.giveBack (stakeOf entry) sits
      (within_of_settled _ entry settled away (.inr shadow))
      (left_of_settled entry settled away (shadow ▸ apart))
  · exact custody.ranked.unlist hotSub unlisted (List.Sublist.refl _)
      (custody.ranked.notMem_warm (.inl (by simp [owner])))
      (credible_of_settled _ _ (by simp [cold]) settled
        (marked.trans (custody.ranked.unmarked (by simp [idle]))))

theorem drainHot_custody
    (worst : registry.hotVramLru.getLast? = some gid) :
    VramCustody 0 (registry.drainHot gid) := by
  have isHot := List.mem_of_getLast? worst
  have facts := custody.ranked.hot gid isHot
  obtain ⟨slot, placed⟩ := Option.isSome_iff_exists.mp facts.placed
  have split_hot := List.dropLast_append_getLast? gid worst
  have unlisted : gid ∉ registry.hotVramLru.dropLast := by
    have once := custody.ranked.hotOnce
    rw [← split_hot] at once
    exact fun again => (List.nodup_append.mp once).2.2 gid again gid
      List.mem_cons_self rfl
  refine leaveVram_custody custody facts.owner facts.idle placed
    { registry.catalog gid with
      inLru := false
      residentAtPrefillBegin := false
      owner := .coldNvme
      slotIdx := none
      slotState := .unallocated }
    ?_ (List.dropLast_sublist _) unlisted rfl facts.idle rfl rfl
  simp [vramTables, drainHot, placed, setVramSlot, pushFreeVram, setEntry]

theorem drainWorst_custody
    (remaining : Nat) :
    VramCustody 0 (drainWorst registry remaining) := by
  induction remaining generalizing registry with
  | zero => exact custody
  | succ remaining ih =>
    unfold drainWorst
    split
    · exact custody
    next gid worst => exact ih (drainHot_custody custody worst)

/-- Entering the pass drains no leased slot. -/
theorem beginPrefillStream_custody
    (drainSlots : Nat)
    (alloc : PrefillAlloc) :
    VramCustody 0 (registry.beginPrefillStream drainSlots alloc).registry ∧
      ∀ gid < registry.totalExperts, ∀ slot,
        Leased (registry.catalog gid) slot →
          (stakeOf ((registry.beginPrefillStream drainSlots
            alloc).registry.catalog gid)).Sits slot := by
  unfold beginPrefillStream
  split
  · exact ⟨custody, fun _ _ _ leased => leased.2.2⟩
  · split
    · exact ⟨custody, fun _ _ _ leased => leased.2.2⟩
    next clear =>
      obtain ⟨idle, unleased⟩ := quiet_of_boundary custody clear
      rw [validated_registry]
      refine ⟨?_, fun gid inside slot leased => ?_⟩
      · exact (drainWorst_custody (markResidents_custody custody idle) _).congr rfl
      · exact absurd leased.1 (by simp [unleased gid inside])

theorem endPrefillStream_safe :
    Safe registry registry.endPrefillStream.registry := by
  unfold endPrefillStream
  split
  · exact custody.safe
  · split
    · exact custody.safe
    next clear =>
      rw [validated_registry]
      refine ⟨⟨custody.custody, ?_⟩, fun gid slot leased => leased.2.2⟩
      exact custody.ranked.keepAll
        (fun entry => { entry with residentAtPrefillBegin := false })
        (fun _ => rfl) (fun _ => rfl) (fun _ => rfl) (fun _ => rfl) (fun _ => id)

end

/-! ## Bulk releases -/

section

variable
    (custody : VramCustody 0 registry)

include custody

theorem releaseHotResident_careful
    (owner : (registry.catalog gid).owner = .hotVram)
    (idle : (registry.catalog gid).operation = .idle)
    (unleased : (registry.catalog gid).leaseCount = 0) :
    Careful 0 registry (registry.releaseHotResident gid) := by
  obtain ⟨slot, placed⟩ := Option.isSome_iff_exists.mp
    ((custody.ranked.credible gid).placed owner)
  let next : CatalogEntry :=
    { registry.catalog gid with
      inLru := false
      owner := .coldNvme
      slotIdx := none
      slotState := .unallocated }
  have tables : (registry.releaseHotResident gid).vramTables =
      ({ registry with
        catalog := update registry.catalog gid next
        vramSlots := update registry.vramSlots slot none
        freeVramSlots := slot :: registry.freeVramSlots
        hotVramLru := (registry.removeFromHotLru gid).hotVramLru } :
          ExpertRegistry).vramTables := by
    simp [vramTables, releaseHotResident, placed, removeFromHotLru, setVramSlot,
      pushFreeVram, setEntry, next]
  refine ⟨leaveVram_custody custody owner idle placed next tables
    (removed_sublist gid _ _)
    (notMem_removed custody.ranked.hotOnce fun isHot =>
      (custody.ranked.hot gid isHot).listed) rfl idle rfl rfl, ?_⟩
  have catalog : (registry.releaseHotResident gid).catalog =
      update registry.catalog gid next :=
    congrArg (fun tables => tables.2.1) tables
  rw [catalog]
  exact Spares.update _ (.inl unleased)

theorem dropShadow_careful
    (shadow : (registry.catalog gid).shadowVramSlot = some slot)
    (unleased : (registry.catalog gid).leaseCount = 0)
    {after : ExpertRegistry}
    (tables : after.vramTables =
      ({ registry with
        catalog := update registry.catalog gid
          { registry.catalog gid with shadowVramSlot := none }
        vramSlots := update registry.vramSlots slot none
        freeVramSlots := slot :: registry.freeVramSlots } :
          ExpertRegistry).vramTables) :
    Careful 0 registry after := by
  obtain ⟨notPrimary, notLeaving⟩ :=
    (custody.custody.backed gid).apart slot shadow
  let next : CatalogEntry :=
    { registry.catalog gid with shadowVramSlot := none }
  have ranked : Ranked registry.totalExperts
      (update registry.catalog gid next) registry.hotVramLru
      registry.warmHostLru :=
    custody.ranked.keep rfl rfl rfl rfl rfl
  refine Careful.congr ⟨⟨?_, ranked⟩, Spares.update _ (.inl unleased)⟩ tables
  change Custody (stakeOf ∘ update registry.catalog gid next) _ _ _ _ _
  rw [stakes_setEntry]
  exact custody.custody.giveBack (stakeOf next) (sits_of_shadow shadow)
    (by constructor <;> simp [stakeOf, next])
    ⟨fun sits => sits.elim notPrimary nofun,
      fun drains => drains.2.elim notLeaving⟩

/-- An idle unleased expert gives up only what is its own. -/
theorem releaseExpert_careful
    (idle : (registry.catalog gid).operation = .idle)
    (unleased : (registry.catalog gid).leaseCount = 0) :
    Careful 0 registry (registry.releaseExpert gid) := by
  have emptied : ∀ released : ExpertRegistry, VramCustody 0 released →
      (released.catalog gid).leaseCount = 0 →
        ∀ after : ExpertRegistry,
          (∀ slot, (released.catalog gid).shadowVramSlot = some slot →
            after = released.releaseShadow gid slot) →
          ((released.catalog gid).shadowVramSlot = none → after = released) →
            Careful 0 released after := by
    intro released backed unleased after dropped kept
    cases shadow : (released.catalog gid).shadowVramSlot with
    | some slot =>
      rw [dropped slot shadow]
      exact dropShadow_careful backed shadow unleased rfl
    | none =>
      rw [kept shadow]
      exact ⟨backed, Spares.refl _⟩
  unfold releaseExpert
  by_cases admitted : (registry.catalog gid).owner = .hotVram ∧
      (!(registry.catalog gid).residentAtPrefillBegin) = true
  · rw [if_pos admitted]
    have left := releaseHotResident_careful custody admitted.1 idle unleased
    refine left.trans (emptied _ left.custody ?_ _ (fun slot shadow => by simp only [shadow])
      fun shadow => by simp only [shadow])
    obtain ⟨slot, placed⟩ := Option.isSome_iff_exists.mp
      ((custody.ranked.credible gid).placed admitted.1)
    simp [releaseHotResident, placed, removeFromHotLru, setVramSlot, pushFreeVram,
      setEntry, unleased]
  · rw [if_neg admitted]
    exact emptied registry custody unleased _ (fun slot shadow => by simp only [shadow])
      fun shadow => by simp only [shadow]

theorem releaseExperts_safe
    (layerId : Nat)
    (gids : List Nat) :
    Safe registry (releaseExperts layerId registry gids).registry := by
  induction gids generalizing registry with
  | nil =>
    unfold releaseExperts
    rw [validated_registry]
    exact custody.safe
  | cons gid rest ih =>
    unfold releaseExperts
    split
    · exact custody.safe
    next unleased =>
      split
      · exact custody.safe
      next idle =>
        have released := releaseExpert_careful custody (not_not.mp idle)
          (not_not.mp unleased)
        exact released.then (ih released.custody)

/-- Releasing a layer keeps what is leased. -/
theorem releaseLayer_safe
    (layerId : Nat) :
    Safe registry (registry.releaseLayer layerId).registry := by
  unfold releaseLayer
  split
  · exact custody.safe
  · split
    · exact custody.safe
    · exact releaseExperts_safe custody layerId _

theorem releaseIdleShadow_careful
    (unleased : (registry.catalog gid).leaseCount = 0) :
    Careful 0 registry (registry.releaseIdleShadow gid) := by
  unfold releaseIdleShadow
  split
  next slot shadow => exact dropShadow_careful custody shadow unleased rfl
  next shadow =>
    have same : { registry.catalog gid with shadowVramSlot := none } =
        registry.catalog gid := by
      rw [← shadow]
    rw [same]
    exact Careful.congr
      ⟨custody.setEntry_same rfl rfl rfl rfl rfl rfl,
        Spares.update _ (.inl unleased)⟩ rfl

/-- The thaw skips a leased shadow. -/
theorem releaseShadowResidencies_safe
    (gids : List Nat) :
    Safe registry (releaseShadowResidencies registry gids) := by
  induction gids generalizing registry with
  | nil => exact custody.safe
  | cons gid rest ih =>
    unfold releaseShadowResidencies
    split
    · exact ih custody
    next settled =>
      have released := releaseIdleShadow_careful custody
        (not_not.mp fun leased => settled (.inr leased))
      exact released.then (ih released.custody)

/-- Freezing and thawing too. -/
theorem setWarmFrozen_safe
    (frozen : Bool) :
    Safe registry (registry.setWarmFrozen frozen).registry := by
  have switched : Careful 0 registry { registry with warmFrozen := frozen } :=
    Careful.congr ⟨custody, Spares.refl _⟩ rfl
  unfold setWarmFrozen
  split
  · exact custody.safe
  · split
    · exact custody.safe
    · simp only [validated_registry]
      split
      · exact switched.safe
      · exact switched.then (releaseShadowResidencies_safe switched.custody _)

end

/-! ## The host boundary -/

section

variable
    (custody : VramCustody 0 registry)

include custody

/-- Growing Warm writes no VRAM table. -/
theorem growHostCapacity_safe
    (usable : Nat) :
    Safe registry (registry.growHostCapacity usable).registry := by
  have recovered : ∀ (before : ExpertRegistry) message slots,
      (recoverHostSlots before message slots).registry.vramTables =
        before.vramTables := by
    intro before message slots
    induction slots generalizing before with
    | nil => rfl
    | cons slot rest ih =>
      unfold recoverHostSlots
      split
      · rfl
      · exact (ih _).trans rfl
  unfold growHostCapacity
  split
  · exact custody.safe
  · split
    · exact custody.safe
    · have tables := recovered registry
        "ExpertRegistry: cannot grow Warm capacity over a slot still in use"
        (List.range' registry.hostCapacityUsable
          (usable - registry.hostCapacityUsable))
      split
      next error after threw =>
        rw [threw] at tables
        exact custody.safe.congr tables
      next after returned =>
        rw [returned] at tables
        rw [checkedValidate_registry]
        exact custody.safe.congr tables

theorem shrinkHostCapacity_safe
    (usable : Nat) :
    Safe registry (registry.shrinkHostCapacity usable).registry := by
  unfold shrinkHostCapacity
  split
  · exact custody.safe
  · split
    · exact custody.safe
    · rw [checkedValidate_registry]
      exact custody.safe.congr rfl

theorem releaseHostSlots_safe
    (released : Nat)
    (slots : List Nat) :
    Safe registry (releaseHostSlots released registry slots).registry := by
  induction slots generalizing registry released with
  | nil =>
    unfold releaseHostSlots
    rw [checkedValidate_registry]
    exact custody.safe
  | cons slot rest ih =>
    unfold releaseHostSlots
    split
    · exact ih custody released
    next gid resident =>
      split
      · exact custody.safe
      next warm =>
        split
        · exact custody.safe
        next settled =>
          have unleased : (registry.catalog gid).leaseCount = 0 :=
            not_not.mp fun leased => settled (.inl leased)
          have idle : (registry.catalog gid).operation = .idle :=
            not_not.mp fun moving => settled (.inr moving)
          let next : CatalogEntry :=
            { registry.catalog gid with
              inLru := false
              owner := .coldNvme
              slotIdx := none
              slotState := .unallocated }
          have tables : (registry.surrenderHostSlot gid slot).vramTables =
              ({ registry.removeFromWarmLru gid with
                catalog := update registry.catalog gid next } :
                  ExpertRegistry).vramTables := by
            simp [vramTables, surrenderHostSlot, removeFromWarmLru, setEntry,
              setHostSlot, next]
          have dropped := (dropWarm_careful custody next (not_not.mp warm) idle
            unleased rfl idle rfl rfl rfl tables).1
          exact dropped.then (ih dropped.custody _)

theorem releaseHostTail_safe
    (keep : Nat) :
    Safe registry (registry.releaseHostTail keep).registry := by
  unfold releaseHostTail
  split
  · exact custody.safe
  · exact releaseHostSlots_safe custody 0 _

end

/-! ## The load -/

theorem cleared_custody
    (layers expertsLayer vramCap hostCap : Nat) :
    VramCustody 0 (registry.cleared layers expertsLayer vramCap hostCap) := by
  constructor
  · constructor
    case backed =>
      intro client
      constructor <;> simp [cleared, stakeOf, Stake.Sits]
    case freeOnce => exact List.nodup_range
    all_goals simp [cleared, stakeOf]
  · refine ⟨List.nodup_nil, List.forall_mem_nil _, List.nodup_nil,
      List.forall_mem_nil _, fun gid => ?_⟩
    exact credible_of_settled _ gid (by intro same; cases same) rfl rfl

/-- The experts still to load are distinct, known and as `init` left them. -/
structure Unloaded (registry : ExpertRegistry) (remaining : List Nat) : Prop where
  nodup : remaining.Nodup
  inside : ∀ gid ∈ remaining, gid < registry.totalExperts
  untouched : ∀ gid ∈ remaining, registry.catalog gid = {}

theorem Unloaded.next
    {rest : List Nat}
    (unloaded : Unloaded registry (gid :: rest))
    {loaded : ExpertRegistry}
    {entry : CatalogEntry}
    (total : loaded.totalExperts = registry.totalExperts)
    (catalog : loaded.catalog = update registry.catalog gid entry) :
    Unloaded loaded rest := by
  have once := List.nodup_cons.mp unloaded.nodup
  refine ⟨once.2, fun other present => ?_, fun other present => ?_⟩
  · rw [total]
    exact unloaded.inside other (List.mem_cons_of_mem gid present)
  · have different : other ≠ gid := fun same => once.1 (same ▸ present)
    rw [catalog, Function.update_of_ne different]
    exact unloaded.untouched other (List.mem_cons_of_mem gid present)

section

variable
    {free rest : List Nat}
    (custody : VramCustody 0 registry)
    (unloaded : Unloaded registry (gid :: rest))

include custody unloaded

theorem placeHot_custody
    (onTop : registry.freeVramSlots = slot :: free) :
    VramCustody 0 (registry.placeHot gid slot free) ∧
      Unloaded (registry.placeHot gid slot free) rest := by
  have entry := unloaded.untouched gid List.mem_cons_self
  have inside := unloaded.inside gid List.mem_cons_self
  let next : CatalogEntry :=
    { owner := .hotVram, slotIdx := some slot, slotState := .active, inLru := true }
  have catalog : (registry.placeHot gid slot free).catalog =
      update registry.catalog gid next := by
    simp [placeHot, setEntry, setVramSlot, pushHotLruFront, entry, next]
  refine ⟨⟨?_, ?_⟩, unloaded.next rfl catalog⟩
  · have tables := custody.custody
    rw [onTop] at tables
    obtain ⟨popped, taken, empty, untaken⟩ := tables.pop
    have owned := popped.setOwner slot (some gid) (popped.unused_of_empty empty)
      (fun isFree => absurd isFree taken)
    have backed : Backed (update registry.vramSlots slot (some gid))
        registry.vramSlotReservations registry.nextOperationId gid
        (stakeOf next) := by
      constructor <;> simp [stakeOf, next, Stake.Sits, untaken]
    rw [catalog, stakes_setEntry]
    exact owned.restake gid (stakeOf next) backed (by simp [stakeOf, next])
      (by simp [stakeOf, next]) (by simp [stakeOf, next])
  · have notHot : gid ∉ registry.hotVramLru :=
      custody.ranked.notMem_hot (.inl (by simp [entry]))
    have notWarm : gid ∉ registry.warmHostLru :=
      custody.ranked.notMem_warm (.inl (by simp [entry]))
    have hot : (registry.placeHot gid slot free).hotVramLru =
        gid :: registry.hotVramLru := by
      simp [placeHot, setEntry, setVramSlot, pushHotLruFront, entry]
    rw [catalog, hot]
    refine custody.ranked.replace
      (List.nodup_cons.mpr ⟨notHot, custody.ranked.hotOnce⟩)
      (fun other isHot different => ?_)
      (fun _ => ⟨inside, rfl, rfl, rfl, rfl⟩) custody.ranked.warmOnce
      (fun _ isWarm _ => isWarm) (fun isWarm => absurd isWarm notWarm)
      (credible_of_settled _ _ (fun _ => rfl) rfl rfl)
    exact (List.mem_cons.mp isHot).resolve_left different

theorem placeWarm_custody :
    VramCustody 0 (registry.placeWarm gid slot free) ∧
      Unloaded (registry.placeWarm gid slot free) rest := by
  have entry := unloaded.untouched gid List.mem_cons_self
  let next : CatalogEntry :=
    { owner := .warmHost, slotIdx := some slot, slotState := .active, inLru := true }
  have catalog : (registry.placeWarm gid slot free).catalog =
      update registry.catalog gid next := by
    simp [placeWarm, setEntry, setHostSlot, pushWarmLruFront, entry, next]
  have stake : stakeOf next = stakeOf (registry.catalog gid) := by
    simp [stakeOf, next, entry]
  refine ⟨⟨?_, ?_⟩, unloaded.next rfl catalog⟩
  · have same : stakeOf ∘ update registry.catalog gid next =
        stakeOf ∘ registry.catalog := by
      rw [stakes_setEntry, stake]
      exact update_eq_self gid (stakeOf ∘ registry.catalog)
    rw [catalog, same]
    exact custody.custody
  · have notHot : gid ∉ registry.hotVramLru :=
      custody.ranked.notMem_hot (.inl (by simp [entry]))
    have notWarm : gid ∉ registry.warmHostLru :=
      custody.ranked.notMem_warm (.inl (by simp [entry]))
    have warm : (registry.placeWarm gid slot free).warmHostLru =
        gid :: registry.warmHostLru := by
      simp [placeWarm, setEntry, setHostSlot, pushWarmLruFront, entry]
    rw [catalog, warm]
    refine custody.ranked.replace custody.ranked.hotOnce
      (fun _ isHot _ => isHot) (fun isHot => absurd isHot notHot)
      (List.nodup_cons.mpr ⟨notWarm, custody.ranked.warmOnce⟩)
      (fun other isWarm different => ?_) (fun _ => ⟨rfl, rfl, rfl⟩)
      (credible_of_settled _ _ (by intro same; cases same) rfl rfl)
    exact (List.mem_cons.mp isWarm).resolve_left different

end

theorem populateRoundRobin_custody
    (preloadWarmHost : Bool)
    (vramAssigned hostAssigned : Nat)
    {remaining : List Nat}
    (custody : VramCustody 0 registry)
    (unloaded : Unloaded registry remaining) :
    VramCustody 0
      (populateRoundRobin preloadWarmHost vramAssigned hostAssigned registry
        remaining) := by
  induction remaining generalizing registry vramAssigned hostAssigned with
  | nil => exact custody
  | cons gid rest ih =>
    unfold populateRoundRobin
    split
    · split
      next slot free onTop =>
        obtain ⟨placed, later⟩ := placeHot_custody custody unloaded onTop
        exact ih _ _ placed later
      · exact custody
    · split
      · split
        next slot free onTop =>
          obtain ⟨placed, later⟩ := placeWarm_custody custody unloaded
          exact ih _ _ placed later
        · exact custody
      · split
        · exact custody
        · have same := update_eq_self gid registry.catalog
          exact ih _ _ custody (unloaded.next rfl same.symm)

/-- A loaded registry starts in custody of its slots. -/
theorem init_custody
    {layers expertsLayer vramCap hostCap : Nat}
    {preloadWarmHost : Bool}
    {loaded : ExpertRegistry}
    (returned :
      registry.init layers expertsLayer vramCap hostCap preloadWarmHost =
        .returned () loaded) :
    VramCustody 0 loaded := by
  have order : Loadable (registry.cleared layers expertsLayer vramCap hostCap)
      (fun _ => .cold)
      (registry.cleared layers expertsLayer vramCap hostCap).roundRobin :=
    roundRobin_loadable layers expertsLayer vramCap hostCap
  unfold ExpertRegistry.init at returned
  split at returned
  · contradiction
  · have built := congrArg Outcome.registry returned
    simp only [validated_registry] at built
    simp only [Outcome.registry] at built
    rw [← built]
    exact populateRoundRobin_custody preloadWarmHost 0 0
      (cleared_custody layers expertsLayer vramCap hostCap)
      ⟨order.nodup, order.inside, fun _ _ => rfl⟩

/-! ## Runs -/

/--
A shadow copy completes only once its operation's victim is no longer being copied
out.  The ordinary completion checks this itself.
-/
def Unhurried
    (registry : ExpertRegistry) :
    RegistryOperation → Prop
  | .completeRequest operationId =>
    ∀ gid, registry.findIncomingOperation operationId = some gid →
      (registry.catalog gid).warmShadow = true → Calm registry operationId
  | _ => True

/-- One operation, whether it returns or throws. -/
theorem perform_custody
    {operation : RegistryOperation}
    (custody : VramCustody 0 registry)
    (unhurried : Unhurried registry operation) :
    VramCustody 0 (operation.perform registry).registry ∧
      ∀ gid < registry.totalExperts, ∀ slot,
        Leased (registry.catalog gid) slot →
          (stakeOf ((operation.perform registry).registry.catalog gid)).Sits
            slot := by
  have kept : ∀ {after : ExpertRegistry}, Safe registry after →
      VramCustody 0 after ∧ ∀ gid < registry.totalExperts, ∀ slot,
        Leased (registry.catalog gid) slot →
          (stakeOf (after.catalog gid)).Sits slot :=
    fun safe => ⟨safe.custody, fun gid _ slot leased =>
      safe.keeps gid slot leased⟩
  cases operation with
  | reserveRequestByGid =>
    rw [RegistryOperation.perform, Outcome.discard_registry]
    exact kept (reserveRequestByGid_safe custody)
  | attachVramDestination =>
    rw [RegistryOperation.perform, Outcome.discard_registry]
    exact kept (attachVramDestination_safe custody)
  | completeRequest => exact kept (completeRequest_safe custody unhurried)
  | failRequest => exact kept (failRequest_safe custody)
  | completeDemotion => exact kept (completeDemotion_safe custody)
  | dropDemotion => exact kept (dropDemotion_safe custody)
  | failDemotion => exact kept (failDemotion_safe custody)
  | releaseLease =>
    exact ⟨releaseLease_custody custody, fun _ _ _ leased =>
      releaseLease_keeps leased⟩
  | beginPrefillStream drainSlots alloc =>
    exact beginPrefillStream_custody custody drainSlots alloc
  | releaseLayer layerId => exact kept (releaseLayer_safe custody layerId)
  | endPrefillStream => exact kept (endPrefillStream_safe custody)
  | setWarmFrozen frozen => exact kept (setWarmFrozen_safe custody frozen)
  | growHostCapacity usable => exact kept (growHostCapacity_safe custody usable)
  | shrinkHostCapacity usable =>
    exact kept (shrinkHostCapacity_safe custody usable)
  | releaseHostTail keep =>
    rw [RegistryOperation.perform, Outcome.discard_registry]
    exact kept (releaseHostTail_safe custody keep)
  | setValidateEachRequest => exact kept (custody.safe.congr rfl)
  | resetCounters => exact kept (custody.safe.congr rfl)

/-- An expert a kernel may be reading: leased, settled, with a VRAM slot. -/
structure ReadableAt (entry : CatalogEntry) (slot : Nat) : Prop where
  leased : 0 < entry.leaseCount
  idle : entry.operation = .idle
  resident : (entry.owner = .hotVram ∧ entry.slotIdx = some slot) ∨
    entry.shadowVramSlot = some slot

theorem ReadableAt.leasedAt
    {entry : CatalogEntry}
    (readable : ReadableAt entry slot) :
    Leased entry slot := by
  refine ⟨readable.leased, readable.idle, ?_⟩
  rcases readable.resident with ⟨owner, placed⟩ | shadow
  · exact sits_of_hot owner readable.idle placed
  · exact sits_of_shadow shadow

/--
In every state of a run in which no shadow copy is completed ahead of its victim's
copy, an operation that keeps to this leaves every leased resident in its slot, and
the slot unreserved.
-/
theorem run_leased_resident_stays
    {unbuilt loaded final : ExpertRegistry}
    {layers expertsLayer vramCap hostCap : Nat}
    {preloadWarmHost : Bool}
    {operations : List RegistryOperation}
    (built :
      unbuilt.init layers expertsLayer vramCap hostCap preloadWarmHost =
        .returned () loaded)
    (run : Run (Guarded Performs Unhurried) loaded operations final)
    {operation : RegistryOperation}
    (unhurried : Unhurried final operation)
    {gid slot : Nat}
    (inside : gid < final.totalExperts)
    (readable : ReadableAt (final.catalog gid) slot) :
    (operation.perform final).registry.vramSlots slot = some gid ∧
      (operation.perform final).registry.vramSlotReservations slot = 0 := by
  have custody : VramCustody 0 final := by
    refine run.invariant (VramCustody 0) ?_ (init_custody built)
    intro source action target custody taken
    have performed := (perform_custody custody taken.1).1
    rwa [show (action.perform source).registry = target from taken.2] at performed
  obtain ⟨after, keeps⟩ := perform_custody custody unhurried
  have sits := keeps gid inside slot readable.leasedAt
  exact (after.custody.backed gid).sits slot sits

/--
A frozen copy lands while a decode step leases it; the thaw that follows leaves the
shadow in its slot.
-/
theorem leased_shadow_stays_through_thaw :
    ∃ loaded final,
      ExpertRegistry.unbuilt.init 1 2 1 2 true = .returned () loaded ∧
        Run (Guarded Performs Unhurried) loaded
          [.setWarmFrozen true, .reserveRequestByGid 1 0 4 false,
            .completeRequest 1] final ∧
        ReadableAt (final.catalog 1) 0 ∧
        (RegistryOperation.perform final
          (.setWarmFrozen false)).registry.vramSlots 0 = some 1 ∧
        (RegistryOperation.perform final
          (.setWarmFrozen false)).registry.vramSlotReservations 0 = 0 := by
  have passed :
      ∃ loaded final,
        ExpertRegistry.unbuilt.init 1 2 1 2 true = .returned () loaded ∧
          Run (Guarded Performs Unhurried) loaded
            [.setWarmFrozen true, .reserveRequestByGid 1 0 4 false,
              .completeRequest 1] final ∧
          1 < final.totalExperts ∧ ReadableAt (final.catalog 1) 0 := by
    apply Exists.intro
    apply Exists.intro
    apply And.intro (Eq.refl _)
    apply And.intro
    · apply Run.cons ⟨trivial, Eq.refl _⟩
      apply Run.cons ⟨trivial, Eq.refl _⟩
      apply Run.cons
      · refine ⟨fun gid _ _ => ?_, Eq.refl _⟩
        unfold Calm
        decide
      exact .nil _
    refine ⟨by decide, by decide, by decide, .inr (by decide)⟩
  obtain ⟨loaded, final, built, run, inside, readable⟩ := passed
  exact ⟨loaded, final, built, run, readable,
    run_leased_resident_stays built run
      (show Unhurried final (.setWarmFrozen false) from trivial) inside readable⟩

/--
A shadow copy staged under a freeze is given a decode victim's slot after the thaw,
completes while the victim is still being copied out, and loses the slot when that
copy completes.  No call throws.
-/
theorem leased_shadow_loses_slot :
    ∃ loaded final after,
      ExpertRegistry.unbuilt.init 1 2 1 2 true = .returned () loaded ∧
        Run Performs loaded
          [.setWarmFrozen true, .reserveRequestByGid 1 0 4 true,
            .setWarmFrozen false, .attachVramDestination 1 4,
            .completeRequest 1] final ∧
        1 < final.totalExperts ∧ ReadableAt (final.catalog 1) 0 ∧
        RegistryOperation.perform final (.completeDemotion 1) =
          .returned () after ∧
        after.vramSlots 0 = none := by
  apply Exists.intro
  apply Exists.intro
  apply Exists.intro
  apply And.intro (Eq.refl _)
  apply And.intro
  · apply Run.cons (Eq.refl _)
    apply Run.cons (Eq.refl _)
    apply Run.cons (Eq.refl _)
    apply Run.cons (Eq.refl _)
    apply Run.cons (Eq.refl _)
    exact .nil _
  refine ⟨by decide, ⟨by decide, by decide, .inr (by decide)⟩, Eq.refl _, ?_⟩
  decide

end Aeon.Registry
