import Aeon.RegistryRequests

namespace Aeon.Registry

open Function (update update_idem update_of_ne update_self)

/-!
# Completions and failures keep the registry consistent

The end of a demotion's copy and of a request's load, whether the call returns or
throws.  A request of decode ends in two moves: its victim leaves, then the
incoming expert takes the slot or gives it back.
-/

open ExpertRegistry

variable
    {stranded : List Nat}
    {registry : ExpertRegistry}
    {place : Nat → Residency}
    {gid slot operationId : Nat}

/-! ## Demotions -/

variable {dangling : Option (Nat × Nat)}
variable {host : Nat}
variable {target : Option Nat}

section

variable
    (accounts : Accounts stranded registry place dangling)

include accounts

theorem Accounts.victim_of_found
    (found : registry.findOperationVictim operationId = some gid) :
    gid < registry.totalExperts ∧
      ∃ slot destination,
        place gid = .demoting operationId slot destination := by
  unfold findOperationVictim at found
  have inside : gid < registry.totalExperts :=
    List.mem_range.mp (List.mem_of_find?_eq_some found)
  have matched := List.find?_some found
  simp only [Bool.and_eq_true, beq_iff_eq] at matched
  obtain ⟨idEq, evicted⟩ := matched
  have fit := accounts.catalog.fits gid inside
  refine ⟨inside, ?_⟩
  have operationEq := fit.operation
  have idOf := fit.operationId
  rw [idEq] at idOf
  cases here : place gid <;> simp_all

theorem Accounts.no_victim_of_not_found
    (missing : registry.findOperationVictim operationId = none)
    {other source : Nat}
    (inside : other < registry.totalExperts) :
    (place other).victim ≠ some (operationId, source) := by
  intro evicted
  unfold findOperationVictim gids at missing
  rw [List.find?_eq_none] at missing
  apply missing other (List.mem_range.mpr inside)
  have fit := accounts.catalog.fits other inside
  have idOf :=
    fit.operationId operationId (Residency.vramSlot_of_victim evicted).2.1
  have operationEq := fit.operation
  cases here : place other <;> simp_all

end

theorem Accounts.onlyVictim
    {destination : Option Nat}
    (accounts : Accounts stranded registry place dangling)
    (inside : gid < registry.totalExperts)
    (evicted : place gid = .demoting operationId slot destination) :
    OnlyVictim registry.totalExperts place gid operationId := by
  intro other source otherInside otherEvicted
  exact accounts.operations.victimUnique other gid operationId source slot
    otherInside inside otherEvicted (by rw [evicted]; rfl)

theorem Accounts.onlyIncoming
    (accounts : Accounts stranded registry place dangling)
    (inside : gid < registry.totalExperts)
    (comes : (place gid).incoming = some operationId) :
    OnlyIncoming registry.totalExperts place gid operationId := by
  intro other otherInside otherComes
  exact accounts.operations.incomingUnique other gid operationId otherInside
    inside otherComes comes

/--
The destination of a demotion is found: a promotion of the same operation also
holds a host reservation, but its slot is not empty.
-/
theorem Accounts.findReservedHostSlot_of_demoting
    (accounts : Accounts stranded registry place none)
    (inside : gid < registry.totalExperts)
    (evicted : place gid = .demoting operationId slot (some host)) :
    registry.findReservedHostSlot operationId = some host := by
  obtain ⟨empty, bound⟩ :=
    accounts.host.destinationEmpty gid host inside (by rw [evicted]; rfl)
  obtain ⟨isReserved, nonzero⟩ :=
    accounts.host.claimed gid operationId host inside (by rw [evicted]; rfl)
  have usable := accounts.usable
  have only : ∀ other, registry.hostSlotReservations other = operationId →
      registry.hostSlots other = none → other = host := by
    intro other otherReserved otherEmpty
    obtain ⟨claimant, claimantInside, claims⟩ :=
      accounts.host.claimant other (by omega)
    rw [otherReserved] at claims
    cases here : place claimant with
    | promoting _ source _ =>
      have held :=
        accounts.host.owned claimant source claimantInside (by rw [here]; rfl)
      simp_all
    | demoting _ source destination =>
      cases destination with
      | none => simp [here] at claims
      | some target =>
        simp only [here, Residency.hostClaim, Option.some.injEq,
          Prod.mk.injEq] at claims
        obtain ⟨rfl, rfl⟩ := claims
        obtain rfl :=
          accounts.onlyVictim inside evicted claimant source
            claimantInside (by rw [here]; rfl)
        have sameSlots : source = slot ∧ target = host := by
          rw [evicted] at here
          simpa using here.symm
        exact sameSlots.2
    | _ => simp [here] at claims
  unfold findReservedHostSlot
  cases found : (List.range registry.hostCapacity).find? fun other =>
      registry.hostSlotReservations other == operationId &&
        (registry.hostSlots other).isNone with
  | none =>
    rw [List.find?_eq_none] at found
    have missed := found host (List.mem_range.mpr (by omega))
    simp [isReserved, empty] at missed
  | some other =>
    have matched := List.find?_some found
    simp only [Bool.and_eq_true, beq_iff_eq, Option.isNone_iff_eq_none]
      at matched
    rw [Option.some_or, only other matched.1 matched.2]

theorem completeDemotion_accounts
    {completions remaining : Nat}
    (accounts : Accounts stranded registry place none)
    (inside : gid < registry.totalExperts)
    (evicted : place gid = .demoting operationId slot (some host)) :
    Accounts stranded
      { ((((registry.setHostSlot host (some gid)).setHostReservation
          host 0).setEntry gid
            (demotedEntry (registry.catalog gid) host)).pushWarmLruFront
              gid).setVramSlot slot none with
        pendingDemotionCount := remaining
        demotionCompletions := completions }
      (update place gid (.warm host none)) none := by
  have fit := accounts.catalog.fits gid inside
  rw [evicted] at fit
  have unlisted : (registry.catalog gid).inLru = false := by
    simpa using fit.inLru
  have nonzero :=
    (accounts.operations.numbered gid operationId inside
      (by rw [evicted]; rfl)).1
  constructor <;>
    simp only [pushWarmLruFront, setEntry, setVramSlot, setHostSlot,
      setHostReservation, demotedEntry, update_idem,
      update_self, unlisted, Bool.false_eq_true, if_false]
  case catalog =>
    apply accounts.catalog.update
    · intro _
      constructor <;> simp [fit.shadowVramSlot, fit.warmShadow]
    · rfl
  case vram =>
    exact accounts.vram.vacate inside (by rw [evicted]; rfl) nonzero rfl rfl
  case host =>
    exact accounts.host.land inside (accounts.onlyVictim inside evicted)
      evicted
  case operations => exact accounts.operations.finish rfl
  case ranks =>
    constructor
    · exact rank_keep accounts.ranks.hot (by simp [evicted])
    · exact rank_add accounts.ranks.warm inside (by simp [evicted]) rfl
    · exact rank_keep accounts.ranks.shadow (by simp [evicted])
  case marks => apply accounts.marks.update <;> simp [evicted]
  case frozen => exact accounts.frozen
  case usable => exact accounts.usable
  case sized => exact accounts.sized

theorem completeDemotion_consistent
    (consistent : Consistent stranded registry) :
    Consistent stranded (registry.completeDemotion operationId).registry := by
  obtain ⟨place, accounts⟩ := consistent
  unfold completeDemotion
  split
  · exact ⟨place, accounts⟩
  next gid found =>
    obtain ⟨inside, slot, destination, evicted⟩ :=
      accounts.victim_of_found found
    split
    · exact ⟨place, accounts⟩
    next copying =>
      have fit := accounts.catalog.fits gid inside
      rw [evicted] at fit
      cases destination with
      | none => simp [fit.gpuTransfer] at copying
      | some host =>
        rw [accounts.findReservedHostSlot_of_demoting inside evicted,
          fit.slotIdx]
        simp only [Residency.slotIdx, checkedValidate_registry]
        exact ⟨_, completeDemotion_accounts accounts inside evicted⟩

/-- A victim whose copy failed is lost. -/
theorem failDemotion_accounts
    {drops remaining : Nat}
    (accounts : Accounts stranded registry place none)
    (inside : gid < registry.totalExperts)
    (evicted : place gid = .demoting operationId slot (some host)) :
    Accounts stranded
      { ((registry.releaseReservedHostSlot host).setVramSlot slot
          none).setEntry gid (coldEntry (registry.catalog gid)) with
        pendingDemotionCount := remaining
        demotionDrops := drops }
      (update place gid .cold) none := by
  have fit := accounts.catalog.fits gid inside
  rw [evicted] at fit
  have nonzero :=
    (accounts.operations.numbered gid operationId inside
      (by rw [evicted]; rfl)).1
  constructor <;>
    simp only [releaseReservedHostSlot, setEntry, setVramSlot, setHostSlot,
      setHostReservation, pushFreeHost, coldEntry]
  case catalog =>
    apply accounts.catalog.update
    · intro _
      constructor <;>
        simp [fit.inLru, fit.shadowVramSlot, fit.warmShadow]
    · rfl
  case vram =>
    exact accounts.vram.vacate inside (by rw [evicted]; rfl) nonzero rfl rfl
  case host =>
    exact accounts.host.abandon inside (accounts.onlyVictim inside evicted)
      evicted
  case operations => exact accounts.operations.finish rfl
  case ranks => apply accounts.ranks.keep <;> simp [evicted]
  case marks => apply accounts.marks.update <;> simp [evicted]
  case frozen => exact accounts.frozen
  case usable => exact accounts.usable
  case sized => exact accounts.sized

theorem failDemotion_consistent
    (consistent : Consistent stranded registry) :
    Consistent stranded (registry.failDemotion operationId).registry := by
  obtain ⟨place, accounts⟩ := consistent
  unfold failDemotion
  split
  · exact ⟨place, accounts⟩
  next gid found =>
    obtain ⟨inside, slot, destination, evicted⟩ :=
      accounts.victim_of_found found
    split
    · exact ⟨place, accounts⟩
    next copying =>
      have fit := accounts.catalog.fits gid inside
      rw [evicted] at fit
      cases destination with
      | none => simp [fit.gpuTransfer] at copying
      | some host =>
        rw [accounts.findReservedHostSlot_of_demoting inside evicted,
          fit.slotIdx]
        simp only [Residency.slotIdx, checkedValidate_registry]
        exact ⟨_, failDemotion_accounts accounts inside evicted⟩

/-! ## Requests -/

section

variable
    {other : Nat}
    (accounts : Accounts stranded registry place none)

include accounts

theorem retireVictim_accounts
    (inside : other < registry.totalExperts)
    (evicted : place other = .demoting operationId slot none) :
    Accounts stranded (registry.retireVictim (some other))
      (update place other .cold) none := by
  have fit := accounts.catalog.fits other inside
  rw [evicted] at fit
  have slotEq : (registry.catalog other).slotIdx = some slot := fit.slotIdx
  have held :=
    accounts.vram.owned other slot inside (by rw [evicted]; rfl)
  have nonzero :=
    (accounts.operations.numbered other operationId inside
      (by rw [evicted]; rfl)).1
  constructor <;>
    simp only [retireVictim, setEntry, setVramSlot, coldEntry, slotEq, held,
      if_true]
  case catalog =>
    apply accounts.catalog.update
    · intro _
      constructor <;>
        simp [fit.inLru, fit.shadowVramSlot, fit.warmShadow]
    · rfl
  case vram =>
    exact accounts.vram.vacate inside (by rw [evicted]; rfl) nonzero rfl rfl
  case host => apply accounts.host.move <;> simp [evicted]
  case operations => exact accounts.operations.finish rfl
  case ranks => apply accounts.ranks.keep <;> simp [evicted]
  case marks => apply accounts.marks.update <;> simp [evicted]
  case frozen => exact accounts.frozen
  case usable => exact accounts.usable
  case sized => exact accounts.sized

/-- A victim with nothing to copy is not waiting for a copy. -/
theorem Accounts.uncopied_victim
    (found : registry.findOperationVictim operationId = some other)
    (uncopied : (registry.catalog other).gpuTransfer ≠ .d2hPending) :
    other < registry.totalExperts ∧
      ∃ slot, place other = .demoting operationId slot none := by
  obtain ⟨inside, slot, destination, evicted⟩ :=
    accounts.victim_of_found found
  have fit := accounts.catalog.fits other inside
  rw [evicted] at fit
  cases destination with
  | none => exact ⟨inside, slot, evicted⟩
  | some host => exact absurd fit.gpuTransfer uncopied

end

/-- The first move of a request's end: its victim, if any, leaves. -/
theorem retireOperationVictim_accounts
    (accounts : Accounts stranded registry place none)
    (comes : (place gid).incoming = some operationId)
    (uncopied :
      ∀ other, registry.findOperationVictim operationId = some other →
        (registry.catalog other).gpuTransfer ≠ .d2hPending) :
    ∃ moved,
      Accounts stranded
        (registry.retireVictim (registry.findOperationVictim operationId))
        moved none ∧
      Unmoved registry
        (registry.retireVictim (registry.findOperationVictim operationId))
        place moved gid ∧
      NoVictim registry moved operationId := by
  cases found : registry.findOperationVictim operationId with
  | none =>
    refine ⟨place, accounts, .refl rfl rfl rfl rfl, ?_⟩
    intro other source inside
    exact accounts.no_victim_of_not_found found inside
  | some other =>
    obtain ⟨inside, slot, evicted⟩ :=
      accounts.uncopied_victim found (uncopied other found)
    have different : gid ≠ other := by
      rintro rfl
      simp [evicted] at comes
    have fit := accounts.catalog.fits other inside
    rw [evicted] at fit
    have slotEq : (registry.catalog other).slotIdx = some slot :=
      fit.slotIdx
    have held :=
      accounts.vram.owned other slot inside (by rw [evicted]; rfl)
    refine ⟨_, retireVictim_accounts accounts inside evicted,
      .of_update ?_ ?_ ?_ different ?_ ?_, ?_⟩
    any_goals
      simp only [retireVictim, setEntry, setVramSlot, slotEq, held, if_true,
        update_of_ne different]
    · rw [evicted]
      rfl
    · intro third source thirdInside thirdEvicted
      by_cases same : third = other
      · rw [same, update_self] at thirdEvicted
        contradiction
      · rw [update_of_ne same] at thirdEvicted
        exact same (accounts.onlyVictim inside evicted third source
          thirdInside thirdEvicted)

section

variable
    (accounts : Accounts stranded registry place none)
    (inside : gid < registry.totalExperts)

include accounts inside

theorem Accounts.claimed_empty
    (claims : (place gid).vramClaim = some (operationId, slot))
    (noVictim : NoVictim registry place operationId) :
    registry.vramSlots slot = none := by
  obtain ⟨isReserved, nonzero⟩ :=
    accounts.vram.claimed gid operationId slot inside claims
  cases held : registry.vramSlots slot with
  | none => rfl
  | some other =>
    have evicted :=
      accounts.vram.reservedHeld slot other (by omega) held
    rw [isReserved] at evicted
    have otherInside := (accounts.vram.owner slot other held).1
    exact absurd evicted (noVictim other slot otherInside)

theorem Accounts.noVictim_of_shadowing
    (copied : place gid = .shadowing operationId host target) :
    NoVictim registry place operationId := by
  intro other source otherInside
  exact accounts.operations.copiesAlone gid other operationId source inside
    otherInside (by rw [copied]; rfl) (by rw [copied]; rfl)

/-- A loaded Cold expert becomes Hot. -/
theorem publishHot_reading_accounts
    (reads : place gid = .reading operationId (some slot))
    (empty : registry.vramSlots slot = none) :
    Accounts stranded (registry.publishHot gid slot)
      (update place gid (.hot slot)) none := by
  have fit := accounts.catalog.fits gid inside
  rw [reads] at fit
  have unlisted : (registry.catalog gid).inLru = false := by
    simpa using fit.inLru
  have only :
      OnlyIncoming registry.totalExperts place gid operationId :=
    accounts.onlyIncoming inside (by rw [reads]; rfl)
  constructor <;>
    simp only [publishHot, pushHotLruFront, setEntry, setVramSlot,
      setVramReservation, hotEntry, update_idem,
      update_self, unlisted, Bool.false_eq_true, if_false]
  case catalog =>
    apply accounts.catalog.update
    · intro _
      constructor <;> simp [fit.shadowVramSlot, fit.warmShadow]
    · rfl
  case vram =>
    exact accounts.vram.fill inside only (by rw [reads]; rfl) empty rfl rfl
  case host => apply accounts.host.move <;> simp [reads]
  case operations => exact accounts.operations.finish rfl
  case ranks =>
    constructor
    · exact rank_add accounts.ranks.hot inside (by simp [reads]) rfl
    · exact rank_keep accounts.ranks.warm (by simp [reads])
    · exact rank_keep accounts.ranks.shadow (by simp [reads])
  case marks => apply accounts.marks.update <;> simp [reads]
  case frozen => exact accounts.frozen
  case usable => exact accounts.usable
  case sized => exact accounts.sized

theorem publishHot_promoting_accounts
    (promoted : place gid = .promoting operationId host slot)
    (empty : registry.vramSlots slot = none) :
    Accounts stranded ((registry.releaseWarmSource host).publishHot gid slot)
      (update place gid (.hot slot)) none := by
  have fit := accounts.catalog.fits gid inside
  rw [promoted] at fit
  have unlisted : (registry.catalog gid).inLru = false := by
    simpa using fit.inLru
  have only :
      OnlyIncoming registry.totalExperts place gid operationId :=
    accounts.onlyIncoming inside (by rw [promoted]; rfl)
  constructor <;>
    simp only [releaseWarmSource, publishHot, pushHotLruFront, setEntry,
      setVramSlot, setVramReservation, setHostSlot, setHostReservation,
      pushFreeHost, hotEntry, update_idem, update_self,
      unlisted, Bool.false_eq_true, if_false]
  case catalog =>
    apply accounts.catalog.update
    · intro _
      constructor <;> simp [fit.shadowVramSlot, fit.warmShadow]
    · rfl
  case vram =>
    exact accounts.vram.fill inside only (by rw [promoted]; rfl) empty rfl
      rfl
  case host => exact accounts.host.leave inside promoted
  case operations => exact accounts.operations.finish rfl
  case ranks =>
    constructor
    · exact rank_add accounts.ranks.hot inside (by simp [promoted]) rfl
    · exact rank_keep accounts.ranks.warm (by simp [promoted])
    · exact rank_keep accounts.ranks.shadow (by simp [promoted])
  case marks => apply accounts.marks.update <;> simp [promoted]
  case frozen => exact accounts.frozen
  case usable => exact accounts.usable
  case sized => exact accounts.sized

theorem publishShadow_accounts
    (copied : place gid = .shadowing operationId host (some slot))
    (empty : registry.vramSlots slot = none) :
    Accounts stranded (registry.publishShadow gid slot)
      (update place gid (.warm host (some slot))) none := by
  have fit := accounts.catalog.fits gid inside
  have admitted := accounts.catalog.admitted gid inside
  rw [copied] at fit admitted
  have unlisted : (registry.catalog gid).inLru = false := by
    simpa using fit.inLru
  have only :
      OnlyIncoming registry.totalExperts place gid operationId :=
    accounts.onlyIncoming inside (by rw [copied]; rfl)
  constructor <;>
    simp only [publishShadow, pushWarmLruFront, shadowTouch, setEntry,
      setVramSlot, setVramReservation, shadowedEntry, update_idem,
      update_self, unlisted, Bool.false_eq_true, if_false]
  case catalog =>
    apply accounts.catalog.update
    · intro _
      constructor <;> simp [fit.owner, fit.slotIdx]
    · exact admitted
  case vram =>
    exact accounts.vram.fill inside only (by rw [copied]; rfl) empty rfl rfl
  case host => apply accounts.host.move <;> simp [copied]
  case operations => exact accounts.operations.finish rfl
  case ranks =>
    refine ⟨?_, ?_, ?_⟩
    · exact rank_keep accounts.ranks.hot (by simp [copied])
    · exact rank_add accounts.ranks.warm inside (by simp [copied]) rfl
    · -- `shadow_touch` removes the expert before it pushes it.
      have without :
          Exactly (registry.shadowLru.filter (· != gid)) fun other =>
            other < registry.totalExperts ∧
              (place other).isShadowed = true := by
        apply accounts.ranks.shadow.remove
        intro other
        constructor
        · rintro ⟨otherInside, shadowed⟩
          refine ⟨⟨otherInside, shadowed⟩, ?_⟩
          rintro rfl
          simp [copied] at shadowed
        · exact And.left
      exact rank_add without inside (by simp [copied]) rfl
  case marks => apply accounts.marks.replace <;> simp [copied]
  case frozen => exact accounts.frozen
  case usable => exact accounts.usable
  case sized => exact accounts.sized

end

/-- The text guard of a request's end: no victim is waiting for its copy. -/
theorem uncopied_of_any
    (unblocked :
      ¬ ((registry.findOperationVictim operationId).any fun other =>
        (registry.catalog other).gpuTransfer == .d2hPending) = true) :
    ∀ other, registry.findOperationVictim operationId = some other →
      (registry.catalog other).gpuTransfer ≠ .d2hPending := by
  intro other found
  rw [found] at unblocked
  simpa using unblocked

theorem completeRequest_consistent
    (consistent : Consistent stranded registry) :
    Consistent stranded (registry.completeRequest operationId).registry := by
  obtain ⟨place, accounts⟩ := consistent
  unfold completeRequest
  split
  · exact ⟨place, accounts⟩
  next gid found =>
    obtain ⟨inside, comes⟩ := accounts.incoming_of_found found
    split
    · exact ⟨place, accounts⟩
    · split
      · exact ⟨place, accounts⟩
      next slot target =>
        have fit := accounts.catalog.fits gid inside
        split
        · exact ⟨place, accounts⟩
        · split
          next isShadowing =>
            simp only [checkedValidate_registry]
            cases here : place gid with
            | shadowing op host pending =>
              rw [here] at fit comes
              obtain rfl : op = operationId := by simpa using comes
              obtain rfl : pending = some slot := by
                have pendingEq := fit.pendingSlotIdx
                rw [target] at pendingEq
                cases pending <;> simp_all
              have empty :=
                accounts.claimed_empty inside (by rw [here]; rfl)
                  (accounts.noVictim_of_shadowing inside here)
              exact ⟨_, publishShadow_accounts accounts inside here empty⟩
            | _ => simp [fit.warmShadow, here] at isShadowing
          next notShadowing =>
            simp only
            split
            · exact ⟨place, accounts⟩
            next unblocked =>
              obtain ⟨moved, retired, unmoved, noVictim⟩ :=
                retireOperationVictim_accounts accounts comes
                  (uncopied_of_any unblocked)
              have sameHere := unmoved.here
              have sameEntry := unmoved.entry
              have sameTotal := unmoved.total
              generalize registry.retireVictim
                (registry.findOperationVictim operationId) = current at *
              have insideCurrent : gid < current.totalExperts := by
                rw [sameTotal]
                exact inside
              have noVictimCurrent : NoVictim current moved operationId := by
                intro other source otherInside
                rw [sameTotal] at otherInside
                exact noVictim other source otherInside
              rw [sameEntry, fit.owner, fit.slotIdx]
              cases here : place gid with
              | reading op pending =>
                rw [here] at fit comes sameHere
                obtain rfl : op = operationId := by simpa using comes
                obtain rfl : pending = some slot := by
                  have pendingEq := fit.pendingSlotIdx
                  rw [target] at pendingEq
                  cases pending <;> simp_all
                simp only [Residency.owner, reduceCtorEq, if_false,
                  checkedValidate_registry]
                have empty :=
                  retired.claimed_empty insideCurrent
                    (by rw [sameHere]; rfl) noVictimCurrent
                exact ⟨_, publishHot_reading_accounts retired insideCurrent
                  sameHere empty⟩
              | promoting op host pending =>
                rw [here] at fit comes sameHere
                obtain rfl : op = operationId := by simpa using comes
                obtain rfl : pending = slot := by
                  have pendingEq := fit.pendingSlotIdx
                  rw [target] at pendingEq
                  simpa using pendingEq.symm
                simp only [Residency.owner, Residency.slotIdx,
                  Residency.hostSlot, if_true]
                split
                · exact ⟨moved, retired⟩
                · simp only [checkedValidate_registry]
                  have empty :=
                    retired.claimed_empty insideCurrent
                      (by rw [sameHere]; rfl) noVictimCurrent
                  exact ⟨_, publishHot_promoting_accounts retired
                    insideCurrent sameHere empty⟩
              | shadowing _ _ _ =>
                simp [fit.warmShadow, here] at notShadowing
              | _ => simp [here] at comes

/-! ## Failed requests -/

theorem Accounts.cancel_vram
    (accounts : Accounts stranded registry place none)
    (target : Option Nat)
    (next : Residency)
    (inside : gid < registry.totalExperts)
    (comes : (place gid).incoming = some operationId)
    (claims : (place gid).vramClaim = reservationOf operationId target)
    (noVictim : NoVictim registry place operationId)
    (noSlot : next.vramSlot = none)
    (unclaimed : next.vramClaim = none)
    (notVictim : next.victim = none) :
    VramSide registry.totalExperts registry.vramCapacity registry.vramSlots
      (registry.cancelVramReservation target).vramSlotReservations
      (registry.cancelVramReservation target).freeVramSlots
      (update place gid next) none := by
  have only := accounts.onlyIncoming inside comes
  cases target with
  | none =>
    apply accounts.vram.move
    · rw [noSlot, (Residency.operation_of_incoming comes).2.1]
    · rw [unclaimed, claims]
      rfl
    · rw [notVictim, (Residency.operation_of_incoming comes).2.2]
  | some slot =>
    have empty := accounts.claimed_empty inside claims noVictim
    simp only [cancelVramReservation, setVramReservation, pushFreeVram,
      empty, if_true]
    exact accounts.vram.cancel inside only claims empty noSlot unclaimed

theorem cancelVramReservation_eq
    (target : Option Nat) :
    registry.cancelVramReservation target =
      { registry with
        vramSlotReservations :=
          (registry.cancelVramReservation target).vramSlotReservations
        freeVramSlots :=
          (registry.cancelVramReservation target).freeVramSlots } := by
  cases target with
  | none => rfl
  | some slot =>
    simp only [cancelVramReservation, setVramReservation, pushFreeVram]
    split <;> rfl

section

variable
    (accounts : Accounts stranded registry place none)
    (inside : gid < registry.totalExperts)

include accounts inside

theorem failReading_accounts
    (reads : place gid = .reading operationId target)
    (noVictim : NoVictim registry place operationId) :
    Accounts stranded
      ((registry.cancelVramReservation target).setEntry gid
        (failedEntry (registry.catalog gid)))
      (update place gid .cold) none := by
  have fit := accounts.catalog.fits gid inside
  rw [reads] at fit
  have cancelled :=
    accounts.cancel_vram target .cold inside
      (by rw [reads]; rfl) (by rw [reads]; cases target <;> rfl) noVictim rfl
      rfl rfl
  rw [cancelVramReservation_eq]
  constructor <;> simp only [setEntry, failedEntry]
  case catalog =>
    apply accounts.catalog.update
    · intro _
      constructor <;>
        simp [fit.owner, fit.slotIdx, fit.inLru, fit.shadowVramSlot,
          fit.warmShadow]
    · rfl
  case vram => exact cancelled
  case host => apply accounts.host.move <;> simp [reads]
  case operations => exact accounts.operations.finish rfl
  case ranks => apply accounts.ranks.keep <;> simp [reads]
  case marks => apply accounts.marks.update <;> simp [reads]
  case frozen => exact accounts.frozen
  case usable => exact accounts.usable
  case sized => exact accounts.sized

theorem failPromoting_accounts
    (promoted : place gid = .promoting operationId host slot)
    (noVictim : NoVictim registry place operationId) :
    Accounts stranded
      ((((registry.cancelVramReservation (some slot)).setHostReservation
          host 0).pushWarmLruFront gid).setEntry gid
            (failedEntry { registry.catalog gid with inLru := true }))
      (update place gid (.warm host none)) none := by
  have fit := accounts.catalog.fits gid inside
  rw [promoted] at fit
  have unlisted : (registry.catalog gid).inLru = false := by
    simpa using fit.inLru
  have cancelled :=
    accounts.cancel_vram (some slot) (.warm host none)
      inside (by rw [promoted]; rfl) (by rw [promoted]; rfl) noVictim rfl
      rfl rfl
  rw [cancelVramReservation_eq]
  constructor <;>
    simp only [pushWarmLruFront, setHostReservation, setEntry, failedEntry,
      update_idem, unlisted, Bool.false_eq_true, if_false]
  case catalog =>
    apply accounts.catalog.update
    · intro _
      constructor <;>
        simp [fit.owner, fit.slotIdx, fit.shadowVramSlot, fit.warmShadow]
    · rfl
  case vram => exact cancelled
  case host => exact accounts.host.unkeep inside promoted
  case operations => exact accounts.operations.finish rfl
  case ranks =>
    constructor
    · exact rank_keep accounts.ranks.hot (by simp [promoted])
    · exact rank_add accounts.ranks.warm inside (by simp [promoted]) rfl
    · exact rank_keep accounts.ranks.shadow (by simp [promoted])
  case marks => apply accounts.marks.update <;> simp [promoted]
  case frozen => exact accounts.frozen
  case usable => exact accounts.usable
  case sized => exact accounts.sized

theorem failShadowing_accounts
    (copied : place gid = .shadowing operationId host target)
    (noVictim : NoVictim registry place operationId) :
    Accounts stranded
      (((registry.cancelVramReservation target).setEntry gid
        (shadowedEntry (registry.catalog gid)
          (registry.catalog gid).shadowVramSlot)).pushWarmLruFront gid)
      (update place gid (.warm host none)) none := by
  have fit := accounts.catalog.fits gid inside
  rw [copied] at fit
  have unlisted : (registry.catalog gid).inLru = false := by
    simpa using fit.inLru
  have cancelled :=
    accounts.cancel_vram target (.warm host none)
      inside (by rw [copied]; rfl) (by rw [copied]; cases target <;> rfl)
      noVictim rfl rfl rfl
  rw [cancelVramReservation_eq]
  constructor <;>
    simp only [pushWarmLruFront, setEntry, shadowedEntry,
      update_idem, update_self, unlisted,
      Bool.false_eq_true, if_false]
  case catalog =>
    apply accounts.catalog.update
    · intro _
      constructor <;>
        simp [fit.owner, fit.slotIdx, fit.shadowVramSlot]
    · rfl
  case vram => exact cancelled
  case host => apply accounts.host.move <;> simp [copied]
  case operations => exact accounts.operations.finish rfl
  case ranks =>
    constructor
    · exact rank_keep accounts.ranks.hot (by simp [copied])
    · exact rank_add accounts.ranks.warm inside (by simp [copied]) rfl
    · exact rank_keep accounts.ranks.shadow (by simp [copied])
  case marks => apply accounts.marks.update <;> simp [copied]
  case frozen => exact accounts.frozen
  case usable => exact accounts.usable
  case sized => exact accounts.sized

end

theorem Accounts.victim_slot_claimed
    {other source : Nat}
    (accounts : Accounts stranded registry place none)
    (inside : gid < registry.totalExperts)
    (comes : (place gid).incoming = some operationId)
    (otherInside : other < registry.totalExperts)
    (evicted : (place other).victim = some (operationId, source)) :
    (place gid).vramClaim = some (operationId, source) := by
  have nonzero :=
    (accounts.operations.numbered other operationId otherInside
      (Residency.vramSlot_of_victim evicted).2.1).1
  have isReserved :=
    accounts.vram.victimReserved other operationId source otherInside evicted
  obtain ⟨_, ⟨third, thirdInside, claims⟩ | dangles⟩ :=
    accounts.vram.claimant source (by omega)
  · rw [isReserved] at claims
    obtain rfl :=
      accounts.onlyIncoming inside comes third thirdInside
        (Residency.incoming_of_vramClaim claims).1
    exact claims
  · contradiction

/--
`fail_request` cancels the reservation before it drops the victim; dropping the
victim first gives the same state.
-/
theorem releaseVictim_cancel
    (accounts : Accounts stranded registry place none)
    (inside : gid < registry.totalExperts)
    (comes : (place gid).incoming = some operationId)
    (uncopied :
      ∀ other, registry.findOperationVictim operationId = some other →
        (registry.catalog other).gpuTransfer ≠ .d2hPending) :
    (registry.cancelVramReservation
        (registry.catalog gid).pendingSlotIdx).releaseVictim
          (registry.findOperationVictim operationId) =
      (registry.retireVictim
        (registry.findOperationVictim operationId)).cancelVramReservation
          (registry.catalog gid).pendingSlotIdx := by
  cases found : registry.findOperationVictim operationId with
  | none => rfl
  | some other =>
    obtain ⟨otherInside, slot, evicted⟩ :=
      accounts.uncopied_victim found (uncopied other found)
    have claims :=
      accounts.victim_slot_claimed inside comes otherInside
        (by rw [evicted]; rfl)
    have target : (registry.catalog gid).pendingSlotIdx = some slot := by
      rw [(accounts.catalog.fits gid inside).pendingSlotIdx, claims]
      rfl
    have slotEq : (registry.catalog other).slotIdx = some slot := by
      rw [(accounts.catalog.fits other otherInside).slotIdx, evicted]
      rfl
    have held :=
      accounts.vram.owned other slot otherInside (by rw [evicted]; rfl)
    rw [target]
    simp only [cancelVramReservation, releaseVictim, retireVictim,
      setVramReservation, setVramSlot, setEntry, pushFreeVram, slotEq,
      held, if_true, reduceCtorEq, if_false, update_self]

theorem failRequest_consistent
    (consistent : Consistent stranded registry) :
    Consistent stranded (registry.failRequest operationId).registry := by
  obtain ⟨place, accounts⟩ := consistent
  unfold failRequest
  split
  · exact ⟨place, accounts⟩
  next gid found =>
    obtain ⟨inside, comes⟩ := accounts.incoming_of_found found
    have fit := accounts.catalog.fits gid inside
    simp only
    split
    next isShadowing =>
      simp only [checkedValidate_registry]
      cases here : place gid with
      | shadowing op host pending =>
        rw [here] at fit comes
        obtain rfl : op = operationId := by simpa using comes
        have target : (registry.catalog gid).pendingSlotIdx = pending := by
          rw [fit.pendingSlotIdx]
          cases pending <;> rfl
        have sameCatalog :
            (registry.cancelVramReservation pending).catalog =
              registry.catalog := by
          rw [cancelVramReservation_eq]
        rw [target, sameCatalog]
        exact ⟨_, failShadowing_accounts accounts inside here
          (accounts.noVictim_of_shadowing inside here)⟩
      | _ => simp [fit.warmShadow, here] at isShadowing
    next notShadowing =>
      split
      · exact ⟨place, accounts⟩
      next unblocked =>
        have uncopied := uncopied_of_any unblocked
        obtain ⟨moved, retired, unmoved, noVictim⟩ :=
          retireOperationVictim_accounts accounts comes uncopied
        rw [releaseVictim_cancel accounts inside comes uncopied]
        have sameHere := unmoved.here
        have sameEntry := unmoved.entry
        have sameTotal := unmoved.total
        generalize registry.retireVictim
          (registry.findOperationVictim operationId) = current at *
        have insideCurrent : gid < current.totalExperts := by
          rw [sameTotal]
          exact inside
        have noVictimCurrent : NoVictim current moved operationId := by
          intro other source otherInside
          rw [sameTotal] at otherInside
          exact noVictim other source otherInside
        simp only [checkedValidate_registry]
        have sameCatalog :
            (current.cancelVramReservation
              (registry.catalog gid).pendingSlotIdx).catalog =
              current.catalog := by
          rw [cancelVramReservation_eq]
        cases here : place gid with
        | reading op pending =>
          rw [here] at fit comes sameHere
          obtain rfl : op = operationId := by simpa using comes
          have target :
              (registry.catalog gid).pendingSlotIdx = pending := by
            rw [fit.pendingSlotIdx]
            cases pending <;> rfl
          rw [sameCatalog, sameEntry, fit.owner, target, if_neg (by simp)]
          rw [target] at sameCatalog
          rw [sameCatalog]
          exact ⟨_, failReading_accounts retired insideCurrent sameHere
            noVictimCurrent⟩
        | promoting op host pending =>
          rw [here] at fit comes sameHere
          obtain rfl : op = operationId := by simpa using comes
          have target :
              (registry.catalog gid).pendingSlotIdx = some pending :=
            fit.pendingSlotIdx
          have source : (registry.catalog gid).slotIdx = some host :=
            fit.slotIdx
          rw [sameCatalog, sameEntry, fit.owner, target, source,
            if_pos (by rfl), Option.getD_some]
          rw [target] at sameCatalog
          have failed :=
            failPromoting_accounts retired insideCurrent sameHere
              noVictimCurrent
          refine ⟨_, failed.congr ?_⟩
          simp only [tables, pushWarmLruFront, setHostReservation,
            setEntry, update_self, sameCatalog, sameEntry]
        | shadowing _ _ _ =>
          simp [fit.warmShadow, here] at notShadowing
        | _ => simp [here] at comes

end Aeon.Registry
