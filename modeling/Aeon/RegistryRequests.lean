import Aeon.RegistryReservation

namespace Aeon.Registry

open Function (update update_eq_self update_idem update_of_ne update_self)

/-!
# Requests keep the registry consistent

`reserve_request_by_gid`, `attach_vram_destination` and `release_lease`, whether
the call returns or throws.
-/

open ExpertRegistry

variable
    {stranded : List Nat}
    {registry : ExpertRegistry}
    {place : Nat → Residency}
    {dangling : Option (Nat × Nat)}
    {gid operationId : Nat}
    {target : Option Nat}

/-- The reservation an operation's claim takes up, if it has one already. -/
def reservationOf
    (operationId : Nat)
    (target : Option Nat) : Option (Nat × Nat) :=
  target.map fun slot => (operationId, slot)

/-- The incoming expert takes up the reservation made for it, if any. -/
theorem VramSide.take
    {total capacity : Nat}
    {slots : Nat → Option Nat}
    {reserved : Nat → Nat}
    {free : List Nat}
    {next : Residency}
    (side :
      VramSide total capacity slots reserved free place
        (reservationOf operationId target))
    (inside : gid < total)
    (noSlot : (place gid).vramSlot = none)
    (noClaim : (place gid).vramClaim = none)
    (noVictim : (place gid).victim = none)
    (noSlotNext : next.vramSlot = none)
    (noVictimNext : next.victim = none)
    (claims : next.vramClaim = reservationOf operationId target) :
    VramSide total capacity slots reserved free
      (update place gid next) none := by
  cases target with
  | none =>
    apply VramSide.move side
    · rw [noSlotNext, noSlot]
    · rw [claims, noClaim]
      rfl
    · rw [noVictimNext, noVictim]
  | some slot =>
    exact VramSide.claim side inside noSlot noClaim noSlotNext claims

/-- What a fresh operation id guarantees. -/
structure FreshOperation
    (registry : ExpertRegistry)
    (place : Nat → Residency)
    (operationId : Nat) : Prop where
  nonzero : operationId ≠ 0
  issued : operationId < registry.nextOperationId
  unused :
    ∀ other, other < registry.totalExperts →
      (place other).incoming ≠ some operationId

theorem beginReading_accounts
    (accounts :
      Accounts stranded registry place (reservationOf operationId target))
    (inside : gid < registry.totalExperts)
    (cold : place gid = .cold)
    (fresh : FreshOperation registry place operationId) :
    Accounts stranded
      ({ registry with
          missesCold := registry.missesCold + 1 }.beginOperation gid
        operationId .ioPending target false)
      (update place gid (.reading operationId target)) none := by
  have fit := accounts.catalog.fits gid inside
  rw [cold] at fit
  constructor <;> simp only [beginOperation, setEntry]
  case catalog =>
    apply accounts.catalog.update
    · intro _
      constructor <;>
        simp [fit.owner, fit.slotIdx, fit.inLru, fit.shadowVramSlot,
          fit.warmShadow]
      cases target <;> rfl
    · rfl
  case vram =>
    apply accounts.vram.take inside
    all_goals first | rw [cold]; rfl | rfl | skip
    cases target <;> rfl
  case host => apply accounts.host.move <;> simp [cold]
  case operations =>
    exact accounts.operations.request fresh.nonzero fresh.issued
      fresh.unused rfl (by simp)
  case ranks => apply accounts.ranks.keep <;> simp [cold]
  case marks => apply accounts.marks.update <;> simp [cold]
  case frozen => exact accounts.frozen
  case usable => exact accounts.usable
  case sized => exact accounts.sized

theorem beginShadowing_accounts
    {host : Nat}
    (accounts :
      Accounts stranded registry place (reservationOf operationId target))
    (inside : gid < registry.totalExperts)
    (warm : place gid = .warm host none)
    (prefilling : registry.warmFrozen = true)
    (alone : NoVictim registry place operationId)
    (fresh : FreshOperation registry place operationId) :
    Accounts stranded
      (({ registry with
          hitsWarm := registry.hitsWarm + 1
          shadowCopies := registry.shadowCopies + 1 }.removeFromWarmLru
            gid).beginOperation gid operationId .promotionPending target true)
      (update place gid (.shadowing operationId host target))
      none := by
  have fit := accounts.catalog.fits gid inside
  rw [warm] at fit
  have listed : (registry.catalog gid).inLru = true := by
    simpa using fit.inLru
  constructor <;>
    simp only [beginOperation, removeFromWarmLru, setEntry,
      update_idem, update_self, listed, if_true]
  case catalog =>
    apply accounts.catalog.update
    · intro _
      constructor <;>
        simp [fit.owner, fit.slotIdx, fit.shadowVramSlot]
      cases target <;> rfl
    · exact prefilling
  case vram =>
    apply accounts.vram.take inside
    all_goals first | rw [warm]; rfl | rfl | skip
    cases target <;> rfl
  case host => apply accounts.host.move <;> simp [warm]
  case operations =>
    exact accounts.operations.request fresh.nonzero fresh.issued
      fresh.unused rfl fun _ => alone
  case ranks =>
    constructor
    · exact rank_keep accounts.ranks.hot (by simp [warm])
    · exact accounts.ranks.warm.erase (rank_drop_iff rfl)
    · exact rank_keep accounts.ranks.shadow (by simp [warm])
  case marks => apply accounts.marks.update <;> simp [warm]
  case frozen => exact accounts.frozen
  case usable => exact accounts.usable
  case sized => exact accounts.sized

theorem beginPromotion_accounts
    {host slot : Nat}
    (accounts : Accounts stranded registry place (some (operationId, slot)))
    (inside : gid < registry.totalExperts)
    (warm : place gid = .warm host none)
    (decoding : registry.warmFrozen = false)
    (fresh : FreshOperation registry place operationId) :
    Accounts stranded
      ((({ registry with
          hitsWarm := registry.hitsWarm + 1 }.removeFromWarmLru
            gid).setHostReservation host operationId).beginOperation gid
              operationId .promotionPending (some slot) false)
      (update place gid (.promoting operationId host slot))
      none := by
  have fit := accounts.catalog.fits gid inside
  rw [warm] at fit
  have listed : (registry.catalog gid).inLru = true := by
    simpa using fit.inLru
  constructor <;>
    simp only [beginOperation, removeFromWarmLru, setHostReservation,
      setEntry, update_idem, update_self, listed, if_true]
  case catalog =>
    apply accounts.catalog.update
    · intro _
      constructor <;>
        simp [fit.owner, fit.slotIdx, fit.shadowVramSlot, fit.warmShadow]
    · simp [accounts.not_streaming decoding]
  case vram =>
    apply accounts.vram.claim inside <;> simp [warm]
  case host => exact accounts.host.keep inside warm fresh.nonzero
  case operations =>
    exact accounts.operations.request fresh.nonzero fresh.issued
      fresh.unused rfl (by simp)
  case ranks =>
    constructor
    · exact rank_keep accounts.ranks.hot (by simp [warm])
    · exact accounts.ranks.warm.erase (rank_drop_iff rfl)
    · exact rank_keep accounts.ranks.shadow (by simp [warm])
  case marks => apply accounts.marks.update <;> simp [warm]
  case frozen => exact accounts.frozen
  case usable => exact accounts.usable
  case sized => exact accounts.sized

/-! ## The calls -/

theorem takeOperationId_accounts
    (accounts : Accounts stranded registry place none)
    (notShadowed : (place gid).isShadowed = false) :
    Accounts stranded registry.takeOperationId place none ∧
      Requestable registry.takeOperationId place gid
        registry.nextOperationId ∧
      FreshOperation registry.takeOperationId place
        registry.nextOperationId := by
  have positive := accounts.operations.positive
  have fresh := fun {other : Nat} (inside : other < registry.totalExperts) =>
    accounts.operations.fresh inside
  refine ⟨{ accounts with operations := accounts.operations.issue },
    ⟨by omega, Nat.lt_succ_self _, ?_, notShadowed⟩,
    ⟨by omega, Nat.lt_succ_self _, ?_⟩⟩
  · intro other source inside evicted
    exact fresh inside (Residency.vramSlot_of_victim evicted).2.1
  · intro other inside comes
    exact fresh inside (Residency.operation_of_incoming comes).1

theorem FreshOperation.of_unmoved
    {after : ExpertRegistry}
    {moved : Nat → Residency}
    (fresh : FreshOperation registry place operationId)
    (unmoved : Unmoved registry after place moved gid) :
    FreshOperation after moved operationId where
  nonzero := fresh.nonzero
  issued := by
    rw [unmoved.issued]
    exact fresh.issued
  unused := by
    intro other inside
    rw [unmoved.total] at inside
    rw [unmoved.incoming]
    exact fresh.unused other inside

theorem reserveTransfer_consistent
    {capacity : Nat}
    {stageOnly : Bool}
    (accounts : Accounts stranded registry place none)
    (inside : gid < registry.totalExperts)
    (idle : (registry.catalog gid).operation = .idle)
    (notHot : (registry.catalog gid).owner ≠ .hotVram)
    (noShadow : (registry.catalog gid).shadowVramSlot = none) :
    Consistent stranded
      (registry.reserveTransfer gid capacity stageOnly).registry := by
  have notShadowed : (place gid).isShadowed = false := by
    have shadowEq := (accounts.catalog.fits gid inside).shadowVramSlot
    rw [Residency.isShadowed_eq, ← shadowEq, noShadow]
    rfl
  obtain ⟨numbered, requestable, fresh⟩ :=
    takeOperationId_accounts accounts notShadowed
  have insideNumbered : gid < registry.takeOperationId.totalExperts := inside
  unfold reserveTransfer
  simp only
  cases owner : (registry.catalog gid).owner with
  | hotVram => exact absurd owner notHot
  | coldNvme =>
    have cold := accounts.cold_of_entry inside owner idle
    simp only
    cases stageOnly with
    | true =>
      simp only [if_true, finishColdRead, checkedValidate_registry]
      exact ⟨_, beginReading_accounts numbered insideNumbered cold fresh⟩
    | false =>
      simp only [Bool.false_eq_true, if_false]
      split
      next error middle refused =>
        rw [reserveVramDestination_threw refused]
        exact ⟨place, numbered⟩
      next destination middle reserved =>
        obtain ⟨moved, reservedAccounts, unmoved, _⟩ :=
          reserveVramDestination_accounts numbered requestable reserved
        simp only [finishColdRead, checkedValidate_registry]
        refine ⟨_, beginReading_accounts reservedAccounts ?_ ?_
          (fresh.of_unmoved unmoved)⟩
        · rw [unmoved.total]
          exact insideNumbered
        · rw [unmoved.here]
          exact cold
  | warmHost =>
    obtain ⟨host, warm, slotEq⟩ := accounts.warm_of_entry inside owner idle
    rw [noShadow] at warm
    simp only
    by_cases frozen : registry.warmFrozen = true
    · simp only [frozen, if_true]
      cases stageOnly with
      | true =>
        simp only [if_true, finishShadowReservation,
          checkedValidate_registry]
        exact ⟨_, beginShadowing_accounts numbered insideNumbered warm
          frozen requestable.noVictim fresh⟩
      | false =>
        simp only [Bool.false_eq_true, if_false]
        split
        next error middle refused =>
          rw [reserveVramDestination_threw refused]
          exact ⟨place, numbered⟩
        next destination middle reserved =>
          obtain ⟨moved, reservedAccounts, unmoved, alone⟩ :=
            reserveVramDestination_accounts numbered requestable reserved
          simp only [finishShadowReservation, checkedValidate_registry]
          have warmStill : moved gid = .warm host none :=
            unmoved.here.trans warm
          refine ⟨_, beginShadowing_accounts reservedAccounts ?_
            warmStill ?_ (alone frozen) (fresh.of_unmoved unmoved)⟩
          · rw [unmoved.total]
            exact insideNumbered
          · rw [unmoved.frozen]
            exact frozen
    · simp only [frozen, Bool.false_eq_true, if_false]
      split
      next error middle refused =>
        rw [reserveVramDestination_threw refused]
        exact ⟨place, numbered⟩
      next destination middle reserved =>
        obtain ⟨moved, reservedAccounts, unmoved, _⟩ :=
          reserveVramDestination_accounts numbered requestable reserved
        simp only [finishPromotion, checkedValidate_registry]
        have slotStill : (middle.catalog gid).slotIdx = some host := by
          rw [unmoved.entry]
          exact slotEq
        rw [slotStill, Option.getD_some]
        have warmStill : moved gid = .warm host none :=
          unmoved.here.trans warm
        refine ⟨_, beginPromotion_accounts reservedAccounts ?_
          warmStill ?_ (fresh.of_unmoved unmoved)⟩
        · rw [unmoved.total]
          exact insideNumbered
        · rw [unmoved.frozen]
          exact Bool.eq_false_iff.mpr frozen

/-- Fields that no place depends on. -/
theorem Fits.of_eq
    {here : Residency}
    {entry changed : CatalogEntry}
    (fit : Fits here entry)
    (same :
      changed =
        { entry with
          leaseCount := changed.leaseCount
          activationCount := changed.activationCount
          lastStepUsed := changed.lastStepUsed
          slotState := changed.slotState
          demotionDropReason := changed.demotionDropReason
          residentAtPrefillBegin := changed.residentAtPrefillBegin }) :
    Fits here changed := by
  rw [same]
  exact { fit with }

theorem recordActivation_accounts
    {step : Nat}
    (accounts : Accounts stranded registry place none)
    (inside : gid < registry.totalExperts) :
    Accounts stranded (registry.recordActivation gid step) place none := by
  unfold recordActivation
  refine accounts.setEntry_same ?_ rfl inside
  intro fit
  exact fit.of_eq rfl

/-- One more lease moves nothing. -/
theorem acquireLease_accounts
    (accounts : Accounts stranded registry place none)
    (inside : gid < registry.totalExperts) :
    Accounts stranded (registry.acquireLease gid) place none := by
  unfold acquireLease
  refine accounts.setEntry_same ?_ rfl inside
  intro fit
  exact fit.of_eq rfl

theorem touchHotLru_accounts
    {slot : Nat}
    (accounts : Accounts stranded registry place none)
    (inside : gid < registry.totalExperts)
    (hot : place gid = .hot slot) :
    Accounts stranded
      ({ registry with hitsHot := registry.hitsHot + 1 }.touchHotLru gid)
      place none := by
  have fit := accounts.catalog.fits gid inside
  rw [hot] at fit
  have listed : (registry.catalog gid).inLru = true := by
    simpa using fit.inLru
  have sameEntry :
      { registry.catalog gid with inLru := true } = registry.catalog gid := by
    rw [← listed]
  have ranked : gid ∈ registry.hotVramLru := by
    rw [accounts.ranks.hot.mem_iff]
    exact ⟨inside, by simp [hot]⟩
  constructor <;>
    simp only [touchHotLru, removeFromHotLru, pushHotLruFront, setEntry,
      update_idem, update_self, listed, if_true,
      Bool.false_eq_true, if_false]
  case catalog =>
    rw [sameEntry, update_eq_self]
    exact accounts.catalog
  case vram => exact accounts.vram
  case host => exact accounts.host
  case operations => exact accounts.operations
  case ranks =>
    refine ⟨?_, accounts.ranks.warm, accounts.ranks.shadow⟩
    have without :
        Exactly (registry.hotVramLru.erase gid) fun other =>
          (other < registry.totalExperts ∧ (place other).isHot = true) ∧
            other ≠ gid :=
      accounts.ranks.hot.erase fun _ => Iff.rfl
    refine without.push ?_ ?_
    · simp
    · intro other
      by_cases same : other = gid
      · simp [same, inside, hot]
      · simp [same]
  case marks =>
    rw [sameEntry, update_eq_self]
    exact accounts.marks
  case frozen => exact accounts.frozen
  case usable => exact accounts.usable
  case sized => exact accounts.sized

theorem shadowTouch_accounts
    {host slot : Nat}
    (accounts : Accounts stranded registry place none)
    (inside : gid < registry.totalExperts)
    (shadowed : place gid = .warm host (some slot)) :
    Accounts stranded
      ({ registry with hitsHot := registry.hitsHot + 1 }.shadowTouch gid)
      place none := by
  constructor <;> simp only [shadowTouch]
  case catalog => exact accounts.catalog
  case vram => exact accounts.vram
  case host => exact accounts.host
  case operations => exact accounts.operations
  case ranks =>
    refine ⟨accounts.ranks.hot, accounts.ranks.warm, ?_⟩
    have without :
        Exactly (registry.shadowLru.filter (· != gid)) fun other =>
          (other < registry.totalExperts ∧
            (place other).isShadowed = true) ∧ other ≠ gid :=
      accounts.ranks.shadow.remove fun _ => Iff.rfl
    refine without.push ?_ ?_
    · simp
    · intro other
      by_cases same : other = gid
      · simp [same, inside, shadowed]
      · simp [same]
  case marks => exact accounts.marks
  case frozen => exact accounts.frozen
  case usable => exact accounts.usable
  case sized => exact accounts.sized

theorem Accounts.shadow_of_entry
    (accounts : Accounts stranded registry place dangling)
    (inside : gid < registry.totalExperts)
    (shadowed : (registry.catalog gid).shadowVramSlot.isSome = true) :
    registry.warmFrozen = true ∧
      (registry.catalog gid).owner = .warmHost := by
  have fit := accounts.catalog.fits gid inside
  have admitted := accounts.catalog.admitted gid inside
  rw [fit.shadowVramSlot] at shadowed
  rw [fit.owner]
  cases here : place gid with
  | warm host shadow =>
    rw [here] at shadowed admitted
    cases shadow with
    | none => simp at shadowed
    | some slot => exact ⟨admitted, rfl⟩
  | _ =>
    rw [here] at shadowed
    simp at shadowed

theorem reserveRequestByGid_consistent
    {step capacity : Nat}
    {stageOnly : Bool}
    (consistent : Consistent stranded registry) :
    Consistent stranded
      (registry.reserveRequestByGid gid step capacity stageOnly).registry := by
  obtain ⟨place, accounts⟩ := consistent
  unfold reserveRequestByGid
  split
  · exact ⟨place, accounts⟩
  next notOutside =>
    have inside : gid < registry.totalExperts := by omega
    have active :
        Accounts stranded (registry.recordActivation gid step) place none :=
      recordActivation_accounts accounts inside
    have insideActive :
        gid < (registry.recordActivation gid step).totalExperts := by
      simpa only [recordActivation, setEntry] using inside
    generalize registry.recordActivation gid step = current at *
    simp only
    split
    · split
      · exact ⟨place, active⟩
      · exact ⟨place, acquireLease_accounts active insideActive⟩
    next settled =>
      have idle : (current.catalog gid).operation = .idle := by
        by_contra busy
        exact settled (Or.inl busy)
      split
      next isHot =>
        obtain ⟨slot, hot, _⟩ := active.hot_of_entry insideActive isHot idle
        have touched := touchHotLru_accounts active insideActive hot
        refine ⟨place, acquireLease_accounts touched ?_⟩
        simpa only [touchHotLru, removeFromHotLru, pushHotLruFront,
          setEntry] using insideActive
      next notHot =>
        split
        next shadowHit =>
          obtain ⟨host, warm, _⟩ :=
            active.warm_of_entry insideActive shadowHit.2.1 idle
          obtain ⟨slot, slotEq⟩ := Option.isSome_iff_exists.mp shadowHit.2.2
          rw [slotEq] at warm
          have touched := shadowTouch_accounts active insideActive warm
          refine ⟨place, acquireLease_accounts touched ?_⟩
          simpa only [shadowTouch] using insideActive
        next noHit =>
          refine reserveTransfer_consistent active insideActive idle notHot
            ?_
          by_contra hasShadow
          have shadowed := Option.isSome_iff_ne_none.mpr hasShadow
          obtain ⟨frozen, isWarm⟩ :=
            active.shadow_of_entry insideActive shadowed
          exact noHit ⟨frozen, isWarm, shadowed⟩

theorem Accounts.incoming_of_found
    (accounts : Accounts stranded registry place dangling)
    (found : registry.findIncomingOperation operationId = some gid) :
    gid < registry.totalExperts ∧
      (place gid).incoming = some operationId := by
  unfold findIncomingOperation at found
  have inside : gid < registry.totalExperts :=
    List.mem_range.mp (List.mem_of_find?_eq_some found)
  have matched := List.find?_some found
  simp only [Bool.and_eq_true, Bool.or_eq_true, beq_iff_eq] at matched
  obtain ⟨idEq, comes⟩ := matched
  have fit := accounts.catalog.fits gid inside
  refine ⟨inside, ?_⟩
  have operationEq := fit.operation
  have idOf := fit.operationId
  rw [idEq] at idOf
  cases here : place gid <;> simp_all

theorem VramSide.no_victim_of_no_claim
    {total capacity nextOperationId other source : Nat}
    {slots : Nat → Option Nat}
    {reserved : Nat → Nat}
    {free : List Nat}
    (side : VramSide total capacity slots reserved free place none)
    (operations : OperationSide total nextOperationId place)
    (inside : gid < total)
    (comes : (place gid).incoming = some operationId)
    (noClaim : (place gid).vramClaim = none)
    (otherInside : other < total)
    (evicted : (place other).victim = some (operationId, source))
    (nonzero : operationId ≠ 0) : False := by
  have isReserved :=
    side.victimReserved other operationId source otherInside evicted
  obtain ⟨_, ⟨third, thirdInside, claims⟩ | dangles⟩ :=
    side.claimant source (by omega)
  · rw [isReserved] at claims
    have thirdComes := (Residency.incoming_of_vramClaim claims).1
    obtain rfl :=
      operations.incomingUnique third gid operationId thirdInside inside
        thirdComes comes
    rw [noClaim] at claims
    contradiction
  · contradiction

theorem attach_consistent
    {slot : Nat}
    (accounts : Accounts stranded registry place (some (operationId, slot)))
    (inside : gid < registry.totalExperts)
    (comes : (place gid).incoming = some operationId)
    (noClaim : (place gid).vramClaim = none) :
    Consistent stranded
      (registry.setEntry gid
        { registry.catalog gid with pendingSlotIdx := some slot }) := by
  have fit := accounts.catalog.fits gid inside
  have admitted := accounts.catalog.admitted gid inside
  have attached :
      ∀ next : Residency,
        next.vramClaim = some (operationId, slot) →
          next.vramSlot = none →
          next.victim = none →
          next.incoming = (place gid).incoming →
          next.hostSlot = (place gid).hostSlot →
          next.hostClaim = (place gid).hostClaim →
          next.destination = (place gid).destination →
          next.isHot = (place gid).isHot →
          next.isWarm = (place gid).isWarm →
          next.shadow = (place gid).shadow →
          next.isShadowing = (place gid).isShadowing →
          next.admitted registry.warmFrozen registry.prefillStream = true →
          Fits next
            { registry.catalog gid with pendingSlotIdx := some slot } →
          Accounts stranded
            (registry.setEntry gid
              { registry.catalog gid with pendingSlotIdx := some slot })
            (update place gid next) none := by
    intro next claims noSlotNext noVictimNext sameIncoming sameHost sameClaim
      sameDestination sameHot sameWarm sameShadow sameCopy admittedNext
      fitNext
    obtain ⟨_, noSlot, noVictim⟩ := Residency.operation_of_incoming comes
    constructor <;> simp only [setEntry]
    case catalog =>
      apply accounts.catalog.update
      · intro _
        exact fitNext
      · exact admittedNext
    case vram =>
      exact accounts.vram.claim inside noSlot noClaim noSlotNext claims
    case host => exact accounts.host.move sameHost sameClaim sameDestination
    case operations =>
      exact accounts.operations.move sameIncoming
        (noVictimNext.trans noVictim.symm) sameCopy
    case ranks =>
      refine ⟨rank_keep accounts.ranks.hot sameHot,
        rank_keep accounts.ranks.warm sameWarm,
        rank_keep accounts.ranks.shadow ?_⟩
      rw [Residency.isShadowed_eq, Residency.isShadowed_eq, sameShadow]
    case marks =>
      refine accounts.marks.update ?_ sameShadow
      intro mark
      exact ⟨mark, fun isHot => sameHot.trans isHot⟩
    case frozen => exact accounts.frozen
    case usable => exact accounts.usable
    case sized => exact accounts.sized
  cases here : place gid with
  | reading op target =>
    rw [here] at comes noClaim fit admitted attached
    obtain rfl : op = operationId := by simpa using comes
    refine ⟨_, attached (.reading op (some slot)) rfl rfl rfl rfl rfl rfl
      rfl rfl rfl rfl rfl rfl ?_⟩
    exact { fit with pendingSlotIdx := rfl }
  | shadowing op host target =>
    rw [here] at comes noClaim fit admitted attached
    obtain rfl : op = operationId := by simpa using comes
    refine ⟨_, attached (.shadowing op host (some slot)) rfl rfl rfl rfl
      rfl rfl rfl rfl rfl rfl rfl admitted ?_⟩
    exact { fit with pendingSlotIdx := rfl }
  | _ => simp [here] at comes noClaim

theorem attachVramDestination_consistent
    {capacity : Nat}
    (consistent : Consistent stranded registry) :
    Consistent stranded
      (registry.attachVramDestination operationId capacity).registry := by
  obtain ⟨place, accounts⟩ := consistent
  unfold attachVramDestination
  split
  · exact ⟨place, accounts⟩
  next gid found =>
    split
    · exact ⟨place, accounts⟩
    next noTarget =>
      split
      next error middle refused =>
        rw [reserveVramDestination_threw refused]
        exact ⟨place, accounts⟩
      next destination middle reserved =>
        obtain ⟨inside, comes⟩ := accounts.incoming_of_found found
        obtain ⟨operates, noSlot, noVictim⟩ :=
          Residency.operation_of_incoming comes
        have fit := accounts.catalog.fits gid inside
        have noClaim : (place gid).vramClaim = none := by
          have pendingEq := fit.pendingSlotIdx
          rw [noTarget] at pendingEq
          exact Option.map_eq_none_iff.mp pendingEq.symm
        obtain ⟨nonzero, issued⟩ :=
          accounts.operations.numbered gid operationId inside operates
        have requestable : Requestable registry place gid operationId := by
          refine ⟨nonzero, issued, ?_, ?_⟩
          · -- A victim's slot is claimed by its operation; this one has none.
            intro other source otherInside evicted
            exact accounts.vram.no_victim_of_no_claim accounts.operations
              inside comes noClaim otherInside evicted nonzero
          · cases here : place gid <;> simp_all
        obtain ⟨moved, reservedAccounts, unmoved, _⟩ :=
          reserveVramDestination_accounts accounts requestable reserved
        refine attach_consistent reservedAccounts ?_ ?_ ?_
        · rw [unmoved.total]
          exact inside
        · rw [unmoved.here]
          exact comes
        · rw [unmoved.here]
          exact noClaim

theorem releaseLease_consistent
    (consistent : Consistent stranded registry) :
    Consistent stranded (registry.releaseLease gid).registry := by
  obtain ⟨place, accounts⟩ := consistent
  unfold releaseLease
  split
  · exact ⟨place, accounts⟩
  next leased =>
    refine ⟨place, accounts.setEntry_same ?_ rfl (by omega)⟩
    intro fit
    exact fit.of_eq rfl

end Aeon.Registry
