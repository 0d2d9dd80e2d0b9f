import Aeon.RegistrySides

namespace Aeon.Registry

open Function (update update_idem update_of_ne update_self)

/-!
# Reservations keep the accounts

`reserve_vram_destination` in its three modes, then the requests built on it.
Every lemma is about a call that returned: the placement it leaves, and that the
incoming expert itself has not moved yet.
-/

open ExpertRegistry

variable
    {stranded : List Nat}
    {registry : ExpertRegistry}
    {place : Nat → Residency}
    {dangling : Option (Nat × Nat)}
    {gid slot operationId : Nat}

/-! ## Entries and places -/

theorem Accounts.setEntry_same
    {entry : CatalogEntry}
    (accounts : Accounts stranded registry place dangling)
    (same :
      Fits (place gid) (registry.catalog gid) → Fits (place gid) entry)
    (sameMark :
      entry.residentAtPrefillBegin =
        (registry.catalog gid).residentAtPrefillBegin)
    (stays : gid < registry.totalExperts) :
    Accounts stranded (registry.setEntry gid entry) place dangling := by
  have updated :
      CatalogSide registry.totalExperts registry.warmFrozen
        registry.prefillStream (update registry.catalog gid entry)
        (update place gid (place gid)) := by
    apply accounts.catalog.update
    · intro inside
      exact same (accounts.catalog.fits gid inside)
    · exact accounts.catalog.admitted gid stays
  have marks :
      MarkSide registry.totalExperts registry.prefillStream
        (update registry.catalog gid entry)
        registry.shadowSlotOfExpert
        (update place gid (place gid)) :=
    accounts.marks.update (by simp [sameMark]) rfl
  rw [Function.update_eq_self] at updated marks
  exact { accounts with catalog := updated, marks := marks }

theorem Accounts.not_streaming
    (accounts : Accounts stranded registry place dangling)
    (thawed : registry.warmFrozen = false) :
    registry.prefillStream = false := by
  by_contra streaming
  have frozen := accounts.frozen (by simpa using streaming)
  rw [thawed] at frozen
  contradiction

variable {other : Nat}
variable {host : Nat}
variable {after : ExpertRegistry}
variable {destination : VramDestination}

section

variable
    (accounts : Accounts stranded registry place dangling)

include accounts

theorem Accounts.not_shadowing
    (thawed : registry.warmFrozen = false)
    (inside : other < registry.totalExperts) :
    (place other).isShadowing = false := by
  have admitted := accounts.catalog.admitted other inside
  cases here : place other <;> simp_all

/-- Outside a prefill nothing is marked. -/
theorem Accounts.unmarked
    (decoding : registry.prefillStream = false)
    (inside : gid < registry.totalExperts) :
    (registry.catalog gid).residentAtPrefillBegin = false := by
  by_contra mark
  have streaming :=
    (accounts.marks.marked gid inside (by simpa using mark)).1
  rw [decoding] at streaming
  contradiction

theorem Accounts.hot_of_entry
    (inside : gid < registry.totalExperts)
    (owner : (registry.catalog gid).owner = .hotVram)
    (idle : (registry.catalog gid).operation = .idle) :
    ∃ slot, place gid = .hot slot ∧
      (registry.catalog gid).slotIdx = some slot := by
  have fit := accounts.catalog.fits gid inside
  have ownerEq := fit.owner
  have operationEq := fit.operation
  have slotEq := fit.slotIdx
  cases here : place gid <;> simp_all

theorem Accounts.warm_of_entry
    (inside : gid < registry.totalExperts)
    (owner : (registry.catalog gid).owner = .warmHost)
    (idle : (registry.catalog gid).operation = .idle) :
    ∃ host, place gid = .warm host (registry.catalog gid).shadowVramSlot ∧
      (registry.catalog gid).slotIdx = some host := by
  have fit := accounts.catalog.fits gid inside
  have ownerEq := fit.owner
  have operationEq := fit.operation
  have slotEq := fit.slotIdx
  have shadowEq := fit.shadowVramSlot
  cases here : place gid <;> simp_all

theorem Accounts.cold_of_entry
    (inside : gid < registry.totalExperts)
    (owner : (registry.catalog gid).owner = .coldNvme)
    (idle : (registry.catalog gid).operation = .idle) :
    place gid = .cold := by
  have fit := accounts.catalog.fits gid inside
  have ownerEq := fit.owner
  have operationEq := fit.operation
  cases here : place gid <;> simp_all

theorem Accounts.hot_of_ranked
    (ranked : gid ∈ registry.hotVramLru) :
    gid < registry.totalExperts ∧
      ∃ slot, place gid = .hot slot ∧
        (registry.catalog gid).slotIdx = some slot := by
  obtain ⟨inside, isHot⟩ := (accounts.ranks.hot.mem_iff gid).mp ranked
  refine ⟨inside, ?_⟩
  have slotEq := (accounts.catalog.fits gid inside).slotIdx
  cases here : place gid <;> simp_all

theorem Accounts.warm_of_ranked
    (ranked : gid ∈ registry.warmHostLru) :
    gid < registry.totalExperts ∧
      ∃ host shadow, place gid = .warm host shadow ∧
        (registry.catalog gid).slotIdx = some host := by
  obtain ⟨inside, isWarm⟩ := (accounts.ranks.warm.mem_iff gid).mp ranked
  refine ⟨inside, ?_⟩
  have slotEq := (accounts.catalog.fits gid inside).slotIdx
  cases here : place gid <;> simp_all

theorem Accounts.shadow_of_ranked
    (ranked : gid ∈ registry.shadowLru) :
    gid < registry.totalExperts ∧
      ∃ host slot, place gid = .warm host (some slot) ∧
        (registry.catalog gid).shadowVramSlot = some slot := by
  obtain ⟨inside, shadowed⟩ := (accounts.ranks.shadow.mem_iff gid).mp ranked
  refine ⟨inside, ?_⟩
  have shadowEq := (accounts.catalog.fits gid inside).shadowVramSlot
  cases here : place gid with
  | warm host shadow => cases shadow <;> simp_all
  | _ => simp_all

end

/-! ## Releases -/

/-- The placement after a call, seen from one expert that did not move. -/
structure Unmoved
    (before after : ExpertRegistry)
    (place moved : Nat → Residency)
    (gid : Nat) : Prop where
  total : after.totalExperts = before.totalExperts
  frozen : after.warmFrozen = before.warmFrozen
  issued : after.nextOperationId = before.nextOperationId
  here : moved gid = place gid
  entry : after.catalog gid = before.catalog gid
  incoming : ∀ other, (moved other).incoming = (place other).incoming

section

variable
    (accounts : Accounts stranded registry place none)
    (inside : gid < registry.totalExperts)

include accounts inside

theorem takeHotSlot_accounts
    (hot : place gid = .hot slot)
    (unmarked : (registry.catalog gid).residentAtPrefillBegin = false)
    (nonzero : operationId ≠ 0) :
    Accounts stranded (registry.takeHotSlot gid slot operationId)
      (update place gid .cold) (some (operationId, slot)) := by
  have fit := accounts.catalog.fits gid inside
  rw [hot] at fit
  have listed : (registry.catalog gid).inLru = true := by
    simpa using fit.inLru
  constructor <;>
    simp only [takeHotSlot, removeFromHotLru, setEntry, setVramSlot,
      setVramReservation, update_idem, update_self,
      listed, if_true]
  case catalog =>
    apply accounts.catalog.update
    · intro _
      constructor <;> simp [fit.shadowVramSlot, fit.warmShadow]
    · rfl
  case vram =>
    apply VramSide.reserve _ nonzero
    apply accounts.vram.release inside <;> simp [hot]
  case host => apply accounts.host.move <;> simp [hot]
  case operations => exact accounts.operations.finish rfl
  case ranks =>
    constructor
    · exact accounts.ranks.hot.erase (rank_drop_iff rfl)
    · exact rank_keep accounts.ranks.warm (by simp [hot])
    · exact rank_keep accounts.ranks.shadow (by simp [hot])
  case marks => apply accounts.marks.update <;> simp [hot, unmarked]
  case frozen => exact accounts.frozen
  case usable => exact accounts.usable
  case sized => exact accounts.sized

theorem takeShadowSlot_accounts
    (shadowed : place gid = .warm host (some slot))
    (nonzero : operationId ≠ 0) :
    Accounts stranded (registry.takeShadowSlot gid slot operationId)
      (update place gid (.warm host none))
      (some (operationId, slot)) := by
  have fit := accounts.catalog.fits gid inside
  rw [shadowed] at fit
  have present : (registry.catalog gid).shadowVramSlot.isSome = true := by
    simp [fit.shadowVramSlot]
  constructor <;>
    simp only [takeShadowSlot, releaseShadowResidency, setEntry, setVramSlot,
      setVramReservation, present, if_true]
  case catalog =>
    apply accounts.catalog.update
    · intro _
      constructor <;>
        simp [fit.owner, fit.slotIdx, fit.pendingSlotIdx, fit.operation,
          fit.gpuTransfer, fit.published, fit.inLru, fit.warmShadow]
    · rfl
  case vram =>
    apply VramSide.reserve _ nonzero
    apply accounts.vram.release inside <;> simp [shadowed]
  case host => apply accounts.host.move <;> simp [shadowed]
  case operations => exact accounts.operations.finish rfl
  case ranks =>
    constructor
    · exact rank_keep accounts.ranks.hot (by simp [shadowed])
    · exact rank_keep accounts.ranks.warm (by simp [shadowed])
    · exact accounts.ranks.shadow.remove (rank_drop_iff rfl)
  case marks => apply accounts.marks.replace <;> simp [shadowed]
  case frozen => exact accounts.frozen
  case usable => exact accounts.usable
  case sized => exact accounts.sized

end

/-! ## Demotions -/

theorem markVictim_accounts
    (accounts : Accounts stranded registry place none)
    (inside : gid < registry.totalExperts)
    (hot : place gid = .hot slot)
    (decoding : registry.warmFrozen = false)
    (nonzero : operationId ≠ 0)
    (issued : operationId < registry.nextOperationId)
    (fresh : OnlyVictim registry.totalExperts place gid operationId) :
    Accounts stranded (registry.markVictim gid slot operationId)
      (update place gid (.demoting operationId slot none))
      (some (operationId, slot)) := by
  have fit := accounts.catalog.fits gid inside
  rw [hot] at fit
  have notStreaming := accounts.not_streaming decoding
  have unmarked := accounts.unmarked notStreaming inside
  have listed : (registry.catalog gid).inLru = true := by
    simpa using fit.inLru
  constructor <;>
    simp only [markVictim, removeFromHotLru, setEntry, setVramReservation,
      update_idem, update_self, listed, if_true]
  case catalog =>
    apply accounts.catalog.update
    · intro _
      constructor <;>
        simp [fit.owner, fit.slotIdx, fit.shadowVramSlot, fit.warmShadow]
    · simp [notStreaming]
  case vram => exact accounts.vram.mark inside hot nonzero
  case host => apply accounts.host.move <;> simp [hot]
  case operations =>
    exact accounts.operations.evict nonzero issued fresh rfl fun _ =>
      accounts.not_shadowing decoding
  case ranks =>
    constructor
    · exact accounts.ranks.hot.erase (rank_drop_iff rfl)
    · exact rank_keep accounts.ranks.warm (by simp [hot])
    · exact rank_keep accounts.ranks.shadow (by simp [hot])
  case marks => apply accounts.marks.update <;> simp [hot, unmarked]
  case frozen => exact accounts.frozen
  case usable => exact accounts.usable
  case sized => exact accounts.sized

/-- A victim's bytes dropped without a copy. -/
theorem dropVictim_accounts
    {reason : ExpertDemotionDropReason}
    (accounts : Accounts stranded registry place dangling)
    (inside : gid < registry.totalExperts)
    (evicted : place gid = .demoting operationId slot none) :
    Accounts stranded (registry.dropVictim gid reason) place dangling := by
  have updated :
      Accounts stranded
        (registry.setEntry gid
          { registry.catalog gid with
            gpuTransfer := .idle
            demotionDropReason := reason })
        place dangling := by
    refine accounts.setEntry_same ?_ rfl inside
    intro fit
    rw [evicted] at fit ⊢
    exact { fit with gpuTransfer := rfl }
  exact { updated with }

theorem surrenderWarm_accounts
    (operationId : Nat)
    (accounts : Accounts stranded registry place dangling)
    (inside : gid < registry.totalExperts)
    (warm : place gid = .warm host none) :
    Accounts stranded
      { registry.takeWarmSlot gid host operationId with
        freeHostSlots := host :: registry.freeHostSlots
        hostSlotReservations := registry.hostSlotReservations }
      (update place gid .cold) dangling := by
  have fit := accounts.catalog.fits gid inside
  rw [warm] at fit
  have listed : (registry.catalog gid).inLru = true := by
    simpa using fit.inLru
  constructor <;>
    simp only [takeWarmSlot, removeFromWarmLru, setEntry, setHostSlot,
      setHostReservation, update_idem, update_self,
      listed, if_true]
  case catalog =>
    apply accounts.catalog.update
    · intro _
      constructor <;>
        simp [fit.operation, fit.gpuTransfer, fit.published,
          fit.shadowVramSlot, fit.warmShadow]
    · rfl
  case vram => apply accounts.vram.move <;> simp [warm]
  case host => exact accounts.host.release inside warm
  case operations => exact accounts.operations.finish rfl
  case ranks =>
    constructor
    · exact rank_keep accounts.ranks.hot (by simp [warm])
    · exact accounts.ranks.warm.erase (rank_drop_iff rfl)
    · exact rank_keep accounts.ranks.shadow (by simp [warm])
  case marks => apply accounts.marks.update <;> simp [warm]
  case frozen => exact accounts.frozen
  case usable => exact accounts.usable
  case sized => exact accounts.sized

theorem startDemotion_accounts
    {rest : List Nat}
    (accounts : Accounts stranded registry place dangling)
    (inside : gid < registry.totalExperts)
    (evicted : place gid = .demoting operationId slot none)
    (onTop : registry.freeHostSlots = host :: rest) :
    Accounts stranded
      (({ registry with freeHostSlots := rest }.setHostReservation host
        operationId).startDemotion gid)
      (update place gid (.demoting operationId slot (some host)))
      dangling := by
  have fit := accounts.catalog.fits gid inside
  have admitted := accounts.catalog.admitted gid inside
  rw [evicted] at fit admitted
  have nonzero :=
    (accounts.operations.numbered gid operationId inside
      (by simp [evicted])).1
  constructor <;>
    simp only [startDemotion, setEntry, setHostReservation]
  case catalog =>
    apply accounts.catalog.update
    · intro _
      constructor <;>
        simp [fit.owner, fit.slotIdx, fit.pendingSlotIdx, fit.operation,
          fit.published, fit.inLru, fit.shadowVramSlot, fit.warmShadow,
          fit.operationId]
    · exact admitted
  case vram => apply accounts.vram.move <;> simp [evicted]
  case host =>
    have side := accounts.host
    rw [onTop] at side
    exact side.copyInto inside evicted nonzero
  case operations => apply accounts.operations.move <;> simp [evicted]
  case ranks => apply accounts.ranks.keep <;> simp [evicted]
  case marks => apply accounts.marks.update <;> simp [evicted]
  case frozen => exact accounts.frozen
  case usable => exact accounts.usable
  case sized => exact accounts.sized

/-- Nothing moved at all. -/
theorem Unmoved.refl
    (total : after.totalExperts = registry.totalExperts)
    (frozen : after.warmFrozen = registry.warmFrozen)
    (issued : after.nextOperationId = registry.nextOperationId)
    (entry : after.catalog gid = registry.catalog gid) :
    Unmoved registry after place place gid :=
  ⟨total, frozen, issued, rfl, entry, fun _ => rfl⟩

theorem Unmoved.of_update
    {next : Residency}
    (total : after.totalExperts = registry.totalExperts)
    (frozen : after.warmFrozen = registry.warmFrozen)
    (issued : after.nextOperationId = registry.nextOperationId)
    (different : gid ≠ other)
    (entry : after.catalog gid = registry.catalog gid)
    (incoming : next.incoming = (place other).incoming) :
    Unmoved registry after place (update place other next) gid := by
  refine ⟨total, frozen, issued, update_of_ne different _ _, entry,
    ?_⟩
  intro third
  by_cases same : third = other
  · subst same
    rw [update_self]
    exact incoming
  · rw [update_of_ne same]

theorem Unmoved.trans
    {middle after : ExpertRegistry}
    {between moved : Nat → Residency}
    (first : Unmoved registry middle place between gid)
    (second : Unmoved middle after between moved gid) :
    Unmoved registry after place moved gid where
  total := second.total.trans first.total
  frozen := second.frozen.trans first.frozen
  issued := second.issued.trans first.issued
  here := second.here.trans first.here
  entry := second.entry.trans first.entry
  incoming := fun other => (second.incoming other).trans (first.incoming other)

theorem mem_of_find?_reverse
    {ranked : List Nat}
    {reclaimable : Nat → Bool}
    (found : ranked.reverse.find? reclaimable = some gid) :
    gid ∈ ranked ∧ reclaimable gid = true :=
  ⟨List.mem_reverse.mp (List.mem_of_find?_eq_some found),
    List.find?_some found⟩

theorem reserveWarmDestination_cases
    (excluded operationId : Nat) :
    (∃ host rest,
      registry.freeHostSlots = host :: rest ∧
        registry.reserveWarmDestination excluded operationId =
          (some host,
            { registry with freeHostSlots := rest }.setHostReservation
              host operationId)) ∨
    (∃ other,
      registry.freeHostSlots = [] ∧
        other ∈ registry.warmHostLru ∧ other ≠ excluded ∧
        registry.reserveWarmDestination excluded operationId =
          (some ((registry.catalog other).slotIdx.getD 0),
            registry.takeWarmSlot other
              ((registry.catalog other).slotIdx.getD 0) operationId)) ∨
      registry.reserveWarmDestination excluded operationId =
        (none, registry) := by
  unfold reserveWarmDestination
  cases freeEq : registry.freeHostSlots with
  | cons host rest => exact Or.inl ⟨host, rest, rfl, rfl⟩
  | nil =>
    cases found : registry.warmHostLru.reverse.find?
        (registry.warmReclaimable excluded) with
    | none => exact Or.inr (Or.inr rfl)
    | some other =>
      obtain ⟨ranked, reclaimable⟩ := mem_of_find?_reverse found
      refine Or.inr (Or.inl ⟨other, rfl, ranked, ?_, rfl⟩)
      rintro rfl
      simp [warmReclaimable] at reclaimable

theorem demoteVictim_accounts
    {incoming capacity : Nat}
    (accounts : Accounts stranded registry place dangling)
    (inside : gid < registry.totalExperts)
    (evicted : place gid = .demoting operationId slot none)
    (different : incoming ≠ gid)
    (decoding : registry.warmFrozen = false)
    (demoted :
      registry.demoteVictim gid slot incoming operationId capacity =
        (destination, after)) :
    destination.vramSlot = slot ∧
      ∃ moved,
        Accounts stranded after moved dangling ∧
          Unmoved registry after place moved incoming := by
  unfold demoteVictim at demoted
  split at demoted
  · obtain ⟨rfl, rfl⟩ := Prod.mk.inj demoted
    exact ⟨rfl, place, accounts, .refl rfl rfl rfl rfl⟩
  · have attempted :
        Accounts stranded
          { registry with
            demotionAttempts := registry.demotionAttempts + 1 }
          place dangling :=
      { accounts with }
    simp only at demoted
    split at demoted
    · obtain ⟨rfl, rfl⟩ := Prod.mk.inj demoted
      refine ⟨rfl, place, dropVictim_accounts attempted inside evicted, ?_⟩
      refine .refl ?_ ?_ ?_ ?_ <;> simp [dropVictim, setEntry, different]
    · rcases reserveWarmDestination_cases incoming operationId with
        ⟨host, rest, freeEq, reserved⟩ |
        ⟨other, freeEq, ranked, notIncoming, reserved⟩ | reserved
      · rw [reserved] at demoted
        obtain ⟨rfl, rfl⟩ := Prod.mk.inj demoted
        have started :=
          startDemotion_accounts attempted inside evicted freeEq
        have noLoad :
            (Residency.demoting operationId slot (some host)).incoming =
              (place gid).incoming := by
          rw [evicted]
          rfl
        refine ⟨rfl, _, started.congr ?_,
          .of_update ?_ ?_ ?_ different ?_ noLoad⟩ <;>
          simp only [tables, startDemotion, setEntry, setHostReservation,
            update_of_ne different]
      · rw [reserved] at demoted
        obtain ⟨rfl, rfl⟩ := Prod.mk.inj demoted
        obtain ⟨otherInside, host, shadow, warm, slotEq⟩ :=
          attempted.warm_of_ranked ranked
        -- Decode has no shadows, so the Warm resident holds only its host slot.
        have noShadow : shadow = none := by
          have admitted := accounts.catalog.admitted other otherInside
          rw [warm, decoding] at admitted
          cases shadow <;> simp_all
        subst noShadow
        have notVictim : gid ≠ other := by
          rintro rfl
          rw [evicted] at warm
          contradiction
        rw [slotEq, Option.getD_some]
        have surrendered :=
          surrenderWarm_accounts operationId attempted otherInside warm
        have stillEvicted :
            update place other .cold gid =
              .demoting operationId slot none := by
          rw [update_of_ne notVictim]
          exact evicted
        have started :=
          startDemotion_accounts surrendered
            (by simpa only [takeWarmSlot, removeFromWarmLru, setEntry,
              setHostSlot, setHostReservation] using inside)
            stillEvicted rfl
        have first :
            Unmoved registry registry place
              (update place other .cold) incoming :=
          .of_update rfl rfl rfl notIncoming.symm rfl (by simp [warm])
        have noLoad :
            (Residency.demoting operationId slot (some host)).incoming =
              (update place other .cold gid).incoming := by
          rw [stillEvicted]
          rfl
        refine ⟨rfl, _, started.congr ?_,
          first.trans (.of_update ?_ ?_ ?_ different ?_ noLoad)⟩ <;>
          simp only [tables, startDemotion, takeWarmSlot, removeFromWarmLru,
            setEntry, setHostReservation, setHostSlot,
            update_of_ne different,
            update_of_ne notIncoming.symm]
      · rw [reserved] at demoted
        obtain ⟨rfl, rfl⟩ := Prod.mk.inj demoted
        refine ⟨rfl, place, dropVictim_accounts attempted inside evicted, ?_⟩
        refine .refl ?_ ?_ ?_ ?_ <;> simp [dropVictim, setEntry, different]

/-! ## Destinations -/

/-- The operation evicts nobody. -/
def NoVictim
    (registry : ExpertRegistry)
    (place : Nat → Residency)
    (operationId : Nat) : Prop :=
  ∀ other source, other < registry.totalExperts →
    (place other).victim ≠ some (operationId, source)

theorem NoVictim.of_update
    {next : Residency}
    (noVictim : NoVictim registry place operationId)
    (total : after.totalExperts = registry.totalExperts)
    (notEvicted : next.victim = none) :
    NoVictim after (update place other next) operationId := by
  intro third source inside
  rw [total] at inside
  by_cases same : third = other
  · subst same
    rw [update_self, notEvicted]
    simp
  · rw [update_of_ne same]
    exact noVictim third source inside

/-- What an expert needs in order to be brought in by an operation. -/
structure Requestable
    (registry : ExpertRegistry)
    (place : Nat → Residency)
    (gid operationId : Nat) : Prop where
  nonzero : operationId ≠ 0
  issued : operationId < registry.nextOperationId
  noVictim : NoVictim registry place operationId
  notShadowed : (place gid).isShadowed = false

/-- The release-based eviction of a prefill. -/
theorem evictForPrefill_accounts
    (accounts : Accounts stranded registry place none)
    (requestable : Requestable registry place gid operationId)
    (returned :
      registry.evictForPrefill gid operationId = .returned destination after) :
    ∃ moved,
      Accounts stranded after moved
        (some (operationId, destination.vramSlot)) ∧
      Unmoved registry after place moved gid ∧
      NoVictim after moved operationId := by
  unfold evictForPrefill at returned
  split at returned
  next other found =>
    simp only [Outcome.returned.injEq] at returned
    obtain ⟨rfl, rfl⟩ := returned
    obtain ⟨ranked, _⟩ := mem_of_find?_reverse found
    obtain ⟨inside, host, slot, shadowed, slotEq⟩ :=
      accounts.shadow_of_ranked ranked
    have different : gid ≠ other := by
      rintro rfl
      have notShadowed := requestable.notShadowed
      simp [shadowed] at notShadowed
    simp only [slotEq, Option.getD_some]
    refine ⟨_, takeShadowSlot_accounts accounts inside shadowed
      requestable.nonzero, .of_update ?_ ?_ ?_ different ?_ ?_,
      requestable.noVictim.of_update rfl rfl⟩ <;>
      simp [takeShadowSlot, releaseShadowResidency, setEntry, setVramSlot,
        setVramReservation, different, shadowed]
  next =>
    split at returned
    next other found =>
      simp only [Outcome.returned.injEq] at returned
      obtain ⟨rfl, rfl⟩ := returned
      obtain ⟨ranked, reclaimable⟩ := mem_of_find?_reverse found
      obtain ⟨inside, slot, hot, slotEq⟩ := accounts.hot_of_ranked ranked
      simp only [hotReclaimable, Bool.true_and, Bool.not_eq_true',
        Bool.or_eq_false_iff] at reclaimable
      have different : gid ≠ other := by
        rintro rfl
        simp at reclaimable
      have unmarked :
          (registry.catalog other).residentAtPrefillBegin = false :=
        reclaimable.1.1.1.1.2
      simp only [slotEq, Option.getD_some]
      refine ⟨_, takeHotSlot_accounts accounts inside hot unmarked
        requestable.nonzero, .of_update ?_ ?_ ?_ different ?_ ?_,
        requestable.noVictim.of_update rfl rfl⟩ <;>
        simp [takeHotSlot, removeFromHotLru, setEntry, setVramSlot,
          setVramReservation, different, hot]
    next => contradiction

theorem reserveVramDestination_accounts
    {capacity : Nat}
    (accounts : Accounts stranded registry place none)
    (requestable : Requestable registry place gid operationId)
    (returned :
      registry.reserveVramDestination gid operationId capacity =
        .returned destination after) :
    ∃ moved,
      Accounts stranded after moved
        (some (operationId, destination.vramSlot)) ∧
      Unmoved registry after place moved gid ∧
      (registry.warmFrozen = true → NoVictim after moved operationId) := by
  unfold reserveVramDestination at returned
  split at returned
  next slot rest freeEq =>
    simp only [Outcome.returned.injEq] at returned
    obtain ⟨rfl, rfl⟩ := returned
    have side := accounts.vram
    rw [freeEq] at side
    refine ⟨place, ?_, .refl ?_ ?_ ?_ ?_, fun _ => requestable.noVictim⟩ <;>
      simp only [setVramReservation]
    exact { accounts with vram := side.reserve requestable.nonzero }
  next =>
    split at returned
    · contradiction
    · split at returned
      · obtain ⟨moved, evicted, unmoved, noVictim⟩ :=
          evictForPrefill_accounts accounts requestable returned
        exact ⟨moved, evicted, unmoved, fun _ => noVictim⟩
      next notPrefill =>
        split at returned
        next => contradiction
        next other found =>
          obtain ⟨ranked, reclaimable⟩ := mem_of_find?_reverse found
          obtain ⟨inside, slot, hot, slotEq⟩ :=
            accounts.hot_of_ranked ranked
          have different : gid ≠ other := by
            rintro rfl
            simp [hotReclaimable] at reclaimable
          have decoding : registry.warmFrozen = false := by
            simp at notPrefill
            exact notPrefill.2
          have fresh :
              OnlyVictim registry.totalExperts place other operationId := by
            intro third source thirdInside evicted
            exact absurd evicted
              (requestable.noVictim third source thirdInside)
          simp only [slotEq, Option.getD_some] at returned
          have marked :=
            markVictim_accounts accounts inside hot decoding
              requestable.nonzero requestable.issued fresh
          have firstMove :
              Unmoved registry (registry.markVictim other slot operationId)
                place
                (update place other
                  (.demoting operationId slot none)) gid := by
            refine .of_update ?_ ?_ ?_ different ?_ ?_ <;>
              simp [markVictim, removeFromHotLru, setEntry,
                setVramReservation, different, hot]
          rcases demoted :
              (registry.markVictim other slot operationId).demoteVictim other
                slot gid operationId capacity with ⟨target, result⟩
          rw [demoted] at returned
          simp only [Outcome.returned.injEq] at returned
          obtain ⟨rfl, rfl⟩ := returned
          obtain ⟨slotKept, moved, final, secondMove⟩ :=
            demoteVictim_accounts marked
              (by rw [firstMove.total]; exact inside)
              (update_self _ _ _) different
              (by rw [firstMove.frozen]; exact decoding) demoted
          rw [slotKept]
          refine ⟨moved, final, firstMove.trans secondMove, ?_⟩
          intro frozen
          rw [decoding] at frozen
          contradiction

/-- A refused destination writes nothing. -/
theorem reserveVramDestination_threw
    {capacity : Nat}
    {error : RegistryError}
    (threw :
      registry.reserveVramDestination gid operationId capacity =
        .threw error after) :
    after = registry := by
  unfold reserveVramDestination at threw
  split at threw
  · contradiction
  · split at threw
    · simp_all
    · split at threw
      · unfold evictForPrefill at threw
        split at threw
        · contradiction
        · split at threw
          · contradiction
          · simp_all
      · split at threw
        · simp_all
        · contradiction

end Aeon.Registry
