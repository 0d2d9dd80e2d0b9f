import Aeon.RegistryCompletion

namespace Aeon.Registry

open Function (update update_idem update_of_ne update_self)

/-!
# Phase changes keep the registry consistent

The load, the entry to and exit from a prefill, the release of a computed layer
and the moves of the Warm boundary.
-/

open ExpertRegistry

variable
    {stranded : List Nat}
    {registry after : ExpertRegistry}
    {place : Nat → Residency}
    {gid slot : Nat}

/-! ## Entry and exit -/

/-- At a phase boundary nothing moves and nobody has two copies. -/
def Settled
    (total : Nat)
    (place : Nat → Residency) : Prop :=
  ∀ gid < total, (place gid).pending = .idle ∧ (place gid).shadow = none

variable {here : Residency}
variable {layerId : Nat}
variable {slots : List Nat}
variable {rest : List Nat}

/-- Every mode admits a settled place. -/
theorem Residency.admitted_of_settled
    {frozen streaming : Bool}
    (idle : here.pending = .idle)
    (alone : here.shadow = none) :
    here.admitted frozen streaming = true := by
  cases here with
  | warm host shadow => simp_all
  | _ => simp_all

/-- What a settled placement says about the claims. -/
theorem Residency.vramClaim_of_idle
    (idle : here.pending = .idle) :
    here.vramClaim = none ∧ here.isShadowing = false ∧
      here.victim = none := by
  cases here <;> simp_all

section

variable
    (accounts : Accounts stranded registry place none)

include accounts

theorem Accounts.settled_of_boundary
    (clear : registry.boundaryViolation = none)
    (noShadow :
      ∀ other < registry.totalExperts,
        (registry.catalog other).shadowVramSlot = none) :
    Settled registry.totalExperts place := by
  intro other inside
  unfold boundaryViolation at clear
  rw [List.findSome?_eq_none_iff] at clear
  have checked := clear other (List.mem_range.mpr inside)
  have fit := accounts.catalog.fits other inside
  have idle : (registry.catalog other).operation = .idle := by
    by_contra busy
    split at checked <;> contradiction
  rw [fit.operation] at idle
  refine ⟨idle, ?_⟩
  rw [← fit.shadowVramSlot]
  exact noShadow other inside

theorem Accounts.settled_of_exit
    (clear : registry.exitViolation = none) :
    Settled registry.totalExperts place := by
  intro other inside
  unfold exitViolation at clear
  rw [List.findSome?_eq_none_iff] at clear
  have checked := clear other (List.mem_range.mpr inside)
  have fit := accounts.catalog.fits other inside
  simp only at checked
  split at checked
  · contradiction
  · split at checked
    · contradiction
    next noShadow =>
      split at checked
      · contradiction
      · split at checked
        · contradiction
        next notBusy =>
          constructor
          · rw [← fit.operation]
            exact not_not.mp notBusy
          · rw [← fit.shadowVramSlot]
            simpa using noShadow

end

/-- The registry with the flags of a prefill. -/
def ExpertRegistry.streaming
    (registry : ExpertRegistry)
    (alloc : PrefillAlloc) : ExpertRegistry :=
  { registry with
    prefillStream := true
    prefillAlloc := alloc
    warmFrozen := true }

section

variable
    (accounts : Accounts stranded registry place none)

include accounts

theorem markResidents_accounts
    (settled : Settled registry.totalExperts place)
    (alloc : PrefillAlloc) :
    Accounts stranded (registry.markResidents.streaming alloc) place
      none := by
  have unreserved : registry.vramSlotReservations = fun _ => 0 := by
    funext slot
    by_contra isReserved
    obtain ⟨_, ⟨other, inside, claims⟩ | dangles⟩ :=
      accounts.vram.claimant slot isReserved
    · have noClaim :=
        (Residency.vramClaim_of_idle (settled other inside).1).1
      rw [noClaim] at claims
      contradiction
    · contradiction
  constructor <;> simp only [markResidents, streaming]
  case catalog =>
    constructor
    case fits =>
      intro other inside
      obtain ⟨idle, alone⟩ := settled other inside
      obtain ⟨noClaim, notCopied, _⟩ := Residency.vramClaim_of_idle idle
      have fit := accounts.catalog.fits other inside
      exact
        { fit with
          pendingSlotIdx := by rw [noClaim]; rfl
          shadowVramSlot := alone.symm
          warmShadow := notCopied.symm }
    case admitted =>
      intro other inside
      obtain ⟨idle, alone⟩ := settled other inside
      exact Residency.admitted_of_settled idle alone
  case vram =>
    rw [← unreserved]
    exact accounts.vram
  case host => exact accounts.host
  case operations => exact accounts.operations
  case ranks =>
    refine ⟨accounts.ranks.hot, accounts.ranks.warm, List.nodup_nil, ?_⟩
    intro other
    constructor
    · simp
    · rintro ⟨inside, shadowed⟩
      rw [Residency.isShadowed_eq, (settled other inside).2] at shadowed
      contradiction
  case marks =>
    constructor
    case marked =>
      intro other inside mark
      refine ⟨rfl, ?_⟩
      rw [beq_iff_eq, (accounts.catalog.fits other inside).owner] at mark
      have idle := (settled other inside).1
      cases here : place other <;> simp_all
    case mirrored =>
      intro other inside
      exact (settled other inside).2.symm
  case frozen => exact fun _ => trivial
  case usable => exact accounts.usable
  case sized => exact accounts.sized

/-- The worst-ranked Hot resident leaves. -/
theorem drainHot_accounts
    (last : registry.hotVramLru.getLast? = some gid)
    (hot : place gid = .hot slot) :
    Accounts stranded (registry.drainHot gid) (update place gid .cold)
      none := by
  obtain ⟨inside, _⟩ :=
    accounts.hot_of_ranked (List.mem_of_getLast? last)
  have fit := accounts.catalog.fits gid inside
  rw [hot] at fit
  have slotEq : (registry.catalog gid).slotIdx = some slot := fit.slotIdx
  constructor <;>
    simp only [drainHot, setEntry, setVramSlot, pushFreeVram, slotEq]
  case catalog =>
    apply accounts.catalog.update
    · intro _
      constructor <;>
        simp [fit.pendingSlotIdx, fit.operation, fit.gpuTransfer,
          fit.published, fit.shadowVramSlot, fit.warmShadow]
    · rfl
  case vram => apply accounts.vram.release inside <;> simp [hot]
  case host => apply accounts.host.move <;> simp [hot]
  case operations => exact accounts.operations.finish rfl
  case ranks =>
    constructor
    · exact accounts.ranks.hot.dropLast last (rank_drop_iff rfl)
    · exact rank_keep accounts.ranks.warm (by simp [hot])
    · exact rank_keep accounts.ranks.shadow (by simp [hot])
  case marks => apply accounts.marks.update <;> simp [hot]
  case frozen => exact accounts.frozen
  case usable => exact accounts.usable
  case sized => exact accounts.sized

end

theorem drainWorst_accounts
    (count : Nat)
    (accounts : Accounts stranded registry place none) :
    Consistent stranded (drainWorst registry count) := by
  induction count generalizing registry place with
  | zero => exact ⟨place, accounts⟩
  | succ remaining step =>
    unfold drainWorst
    split
    · exact ⟨place, accounts⟩
    next gid last =>
      obtain ⟨_, slot, hot, _⟩ :=
        accounts.hot_of_ranked (List.mem_of_getLast? last)
      exact step (drainHot_accounts accounts last hot)

/-- Draining does not look at the mode. -/
theorem drainWorst_streaming
    (alloc : PrefillAlloc)
    (count : Nat) :
    drainWorst (registry.streaming alloc) count =
      (drainWorst registry count).streaming alloc := by
  induction count generalizing registry with
  | zero => rfl
  | succ remaining step =>
    unfold drainWorst
    simp only [streaming]
    split
    · rfl
    next gid last =>
      have drained :
          (registry.streaming alloc).drainHot gid =
            (registry.drainHot gid).streaming alloc := by
        unfold drainHot
        cases slotEq : (registry.catalog gid).slotIdx <;>
          simp only [streaming, setEntry, setVramSlot, pushFreeVram,
            slotEq]
      rw [← streaming, drained]
      exact step

theorem beginPrefillStream_consistent
    {drainSlots : Nat}
    {alloc : PrefillAlloc}
    (consistent : Consistent stranded registry)
    (noShadow :
      registry.prefillStream = false →
        registry.boundaryViolation = none →
          ∀ other < registry.totalExperts,
            (registry.catalog other).shadowVramSlot = none) :
    Consistent stranded
      (registry.beginPrefillStream drainSlots alloc).registry := by
  obtain ⟨place, accounts⟩ := consistent
  unfold beginPrefillStream
  split
  · exact ⟨place, accounts⟩
  next decoding =>
    split
    · exact ⟨place, accounts⟩
    next clear =>
      have settled :=
        accounts.settled_of_boundary clear
          (noShadow (Bool.eq_false_iff.mpr decoding) clear)
      simp only [validated_registry]
      have drained :=
        drainWorst_accounts (min drainSlots registry.hotVramLru.length)
          (markResidents_accounts accounts settled alloc)
      rw [drainWorst_streaming] at drained
      exact drained

theorem endPrefillStream_consistent
    (consistent : Consistent stranded registry) :
    Consistent stranded registry.endPrefillStream.registry := by
  obtain ⟨place, accounts⟩ := consistent
  unfold endPrefillStream
  split
  · exact ⟨place, accounts⟩
  · split
    · exact ⟨place, accounts⟩
    next clear =>
      have settled := accounts.settled_of_exit clear
      simp only [validated_registry]
      refine ⟨place, ?_⟩
      constructor <;> simp only
      case catalog =>
        constructor
        case fits =>
          intro other inside
          exact (accounts.catalog.fits other inside).of_eq rfl
        case admitted =>
          intro other inside
          obtain ⟨idle, alone⟩ := settled other inside
          exact Residency.admitted_of_settled idle alone
      case vram => exact accounts.vram
      case host => exact accounts.host
      case operations => exact accounts.operations
      case ranks => exact accounts.ranks
      case marks =>
        exact ⟨fun _ _ mark => absurd mark (by simp),
          accounts.marks.mirrored⟩
      case frozen => exact nofun
      case usable => exact accounts.usable
      case sized => exact accounts.sized

/-! ## The release of a computed layer -/

theorem releaseHotResident_accounts
    (accounts : Accounts stranded registry place none)
    (inside : gid < registry.totalExperts)
    (hot : place gid = .hot slot)
    (unmarked : (registry.catalog gid).residentAtPrefillBegin = false) :
    Accounts stranded (registry.releaseHotResident gid)
      (update place gid .cold) none := by
  have fit := accounts.catalog.fits gid inside
  rw [hot] at fit
  have slotEq : (registry.catalog gid).slotIdx = some slot := fit.slotIdx
  have listed : (registry.catalog gid).inLru = true := by
    simpa using fit.inLru
  constructor <;>
    simp only [releaseHotResident, removeFromHotLru, setEntry, setVramSlot,
      pushFreeVram, slotEq, update_idem, update_self,
      listed, if_true]
  case catalog =>
    apply accounts.catalog.update
    · intro _
      constructor <;>
        simp [fit.pendingSlotIdx, fit.operation, fit.gpuTransfer,
          fit.published, fit.shadowVramSlot, fit.warmShadow]
    · rfl
  case vram => apply accounts.vram.release inside <;> simp [hot]
  case host => apply accounts.host.move <;> simp [hot]
  case operations => exact accounts.operations.finish rfl
  case ranks =>
    constructor
    · exact accounts.ranks.hot.erase (rank_drop_iff rfl)
    · exact rank_keep accounts.ranks.warm (by simp [hot])
    · exact rank_keep accounts.ranks.shadow (by simp [hot])
  case marks => apply accounts.marks.update <;> simp [hot, unmarked]
  case frozen => exact accounts.frozen
  case usable => exact accounts.usable
  case sized => exact accounts.sized

theorem releaseShadow_accounts
    {host : Nat}
    (accounts : Accounts stranded registry place none)
    (inside : gid < registry.totalExperts)
    (shadowed : place gid = .warm host (some slot)) :
    Accounts stranded (registry.releaseShadow gid slot)
      (update place gid (.warm host none)) none := by
  have fit := accounts.catalog.fits gid inside
  rw [shadowed] at fit
  have hasShadow : (registry.catalog gid).shadowVramSlot.isSome = true := by
    rw [fit.shadowVramSlot]
    rfl
  constructor <;>
    simp only [releaseShadow, releaseShadowResidency, setEntry, setVramSlot,
      pushFreeVram, hasShadow, if_true]
  case catalog =>
    apply accounts.catalog.update
    · intro _
      exact { fit with shadowVramSlot := rfl }
    · rfl
  case vram => apply accounts.vram.release inside <;> simp [shadowed]
  case host => apply accounts.host.move <;> simp [shadowed]
  case operations => exact accounts.operations.finish rfl
  case ranks =>
    constructor
    · exact rank_keep accounts.ranks.hot (by simp [shadowed])
    · exact rank_keep accounts.ranks.warm (by simp [shadowed])
    · exact accounts.ranks.shadow.remove (rank_drop_iff rfl)
  case marks => apply accounts.marks.replace <;> simp [shadowed]
  case frozen => exact accounts.frozen
  case usable => exact accounts.usable
  case sized => exact accounts.sized

/-- One expert of a computed layer gives up what it holds in VRAM. -/
theorem releaseExpert_accounts
    (accounts : Accounts stranded registry place none)
    (inside : gid < registry.totalExperts)
    (idle : (registry.catalog gid).operation = .idle) :
    ∃ moved,
      Accounts stranded (registry.releaseExpert gid) moved none ∧
        (registry.releaseExpert gid).totalExperts =
          registry.totalExperts := by
  have fit := accounts.catalog.fits gid inside
  unfold releaseExpert
  by_cases admitted :
      (registry.catalog gid).owner = .hotVram ∧
        !(registry.catalog gid).residentAtPrefillBegin
  · obtain ⟨slot, hot, slotEq⟩ :=
      accounts.hot_of_entry inside admitted.1 idle
    have released :=
      releaseHotResident_accounts accounts inside hot (by simpa using admitted.2)
    have noShadow :
        ((registry.releaseHotResident gid).catalog gid).shadowVramSlot =
          none := by
      have insideAfter :
          gid < (registry.releaseHotResident gid).totalExperts := by
        simpa only [releaseHotResident, removeFromHotLru, setEntry,
          setVramSlot, pushFreeVram, slotEq] using inside
      have fitAfter := released.catalog.fits gid insideAfter
      rw [update_self] at fitAfter
      exact fitAfter.shadowVramSlot
    simp only [admitted, if_true, and_self, noShadow]
    refine ⟨_, released, ?_⟩
    simp only [releaseHotResident, removeFromHotLru, setEntry, setVramSlot,
      pushFreeVram, slotEq]
  · simp only [admitted, if_false]
    split
    next slot shadowEq =>
      obtain ⟨_, isWarm⟩ :=
        accounts.shadow_of_entry inside (by rw [shadowEq]; rfl)
      obtain ⟨host, warm, _⟩ := accounts.warm_of_entry inside isWarm idle
      rw [shadowEq] at warm
      refine ⟨_, releaseShadow_accounts accounts inside warm, ?_⟩
      simp only [releaseShadow, releaseShadowResidency, setEntry,
        setVramSlot, pushFreeVram]
    · exact ⟨place, accounts, rfl⟩

theorem releaseExperts_consistent
    {layer : List Nat}
    (accounts : Accounts stranded registry place none)
    (inside : ∀ gid ∈ layer, gid < registry.totalExperts) :
    Consistent stranded (releaseExperts layerId registry layer).registry := by
  induction layer generalizing registry place with
  | nil =>
    simp only [releaseExperts, validated_registry]
    exact ⟨place, accounts⟩
  | cons gid rest step =>
    unfold releaseExperts
    split
    · exact ⟨place, accounts⟩
    · split
      · exact ⟨place, accounts⟩
      next idle =>
        obtain ⟨moved, released, sameTotal⟩ :=
          releaseExpert_accounts accounts
            (inside gid List.mem_cons_self) (not_not.mp idle)
        apply step released
        intro other present
        rw [sameTotal]
        exact inside other (List.mem_cons_of_mem gid present)

theorem Accounts.layer_inside
    (accounts : Accounts stranded registry place none)
    (inRange : layerId < registry.numLayers) :
    ∀ gid ∈ List.range' (layerId * registry.expertsPerLayer)
        registry.expertsPerLayer,
      gid < registry.totalExperts := by
  intro gid present
  obtain ⟨offset, offsetBound, rfl⟩ := List.mem_range'.mp present
  have fitsInside :
      (layerId + 1) * registry.expertsPerLayer ≤
        registry.numLayers * registry.expertsPerLayer :=
    Nat.mul_le_mul_right _ inRange
  rw [accounts.sized]
  rw [Nat.succ_mul] at fitsInside
  omega

theorem releaseLayer_consistent
    (consistent : Consistent stranded registry) :
    Consistent stranded (registry.releaseLayer layerId).registry := by
  obtain ⟨place, accounts⟩ := consistent
  unfold releaseLayer
  split
  · exact ⟨place, accounts⟩
  · split
    · exact ⟨place, accounts⟩
    next inRange =>
      exact releaseExperts_consistent accounts
        (accounts.layer_inside (Nat.not_le.mp inRange))

/-! ## Moves of the Warm boundary -/

theorem Accounts.hostUnused
    (accounts : Accounts stranded registry place none)
    (above : registry.hostCapacityUsable ≤ slot) :
    registry.hostSlots slot = none ∧
      registry.hostSlotReservations slot = 0 := by
  have empty : registry.hostSlots slot = none := by
    cases held : registry.hostSlots slot with
    | none => rfl
    | some gid =>
      have below := (accounts.host.owner slot gid held).2.1
      omega
  refine ⟨empty, ?_⟩
  by_contra isReserved
  obtain ⟨gid, inside, claims⟩ := accounts.host.claimant slot isReserved
  obtain ⟨_, here | copies⟩ := Residency.operation_of_hostClaim claims
  · have held := accounts.host.owned gid slot inside here
    rw [empty] at held
    contradiction
  · have below := (accounts.host.destinationEmpty gid slot inside copies).2
    omega

/-- The slots above the usable prefix are all pushed. -/
theorem recoverHostSlots_registry
    {message : String}
    (unused :
      ∀ slot ∈ slots,
        registry.hostSlots slot = none ∧
          registry.hostSlotReservations slot = 0) :
    recoverHostSlots registry message slots =
      .returned ()
        { registry with
          freeHostSlots := slots.reverse ++ registry.freeHostSlots } := by
  induction slots generalizing registry with
  | nil => rfl
  | cons slot rest step =>
    unfold recoverHostSlots
    have idle : registry.hostSlotInUse slot = false := by
      have empty := unused slot List.mem_cons_self
      simp [hostSlotInUse, empty.1, empty.2]
    rw [idle]
    simp only [Bool.false_eq_true, if_false]
    rw [step]
    · simp only [pushFreeHost, List.reverse_cons, List.append_assoc,
        List.singleton_append]
    · intro other later
      exact unused other (List.mem_cons_of_mem slot later)

theorem growHostCapacity_consistent
    {usable : Nat}
    (consistent : Consistent stranded registry) :
    Consistent stranded (registry.growHostCapacity usable).registry := by
  obtain ⟨place, accounts⟩ := consistent
  unfold growHostCapacity
  split
  · exact ⟨place, accounts⟩
  next grows =>
    split
    · exact ⟨place, accounts⟩
    next allocated =>
      have unused :
          ∀ slot ∈ List.range' registry.hostCapacityUsable
              (usable - registry.hostCapacityUsable),
            registry.hostSlots slot = none ∧
              registry.hostSlotReservations slot = 0 := by
        intro slot present
        apply accounts.hostUnused
        rw [List.mem_range'_1] at present
        exact present.1
      rw [recoverHostSlots_registry unused]
      simp only [checkedValidate_registry]
      have grown :
          HostSide registry.totalExperts usable registry.hostSlots
            registry.hostSlotReservations
            ((List.range' registry.hostCapacityUsable
              (usable - registry.hostCapacityUsable)).reverse ++
                (registry.freeHostSlots ++ stranded)) place := by
        apply accounts.host.grow
        · omega
        · rw [List.nodup_reverse]
          exact List.nodup_range'
        · intro other
          rw [List.mem_reverse, List.mem_range'_1]
          omega
        · intro other present
          exact unused other (List.mem_reverse.mp present)
      rw [← List.append_assoc] at grown
      exact ⟨place,
        { accounts with host := grown, usable := Nat.not_lt.mp allocated }⟩

/-- The resident of this slot stops `release_host_tail`. -/
def ExpertRegistry.tailBlocked
    (registry : ExpertRegistry)
    (slot : Nat) : Bool :=
  (registry.hostSlots slot).any fun gid =>
    (registry.catalog gid).owner != .warmHost ||
      (registry.catalog gid).leaseCount != 0 ||
        (registry.catalog gid).operation != .idle

/-- The drain of `slots` empties no Warm resident that has a shadow. -/
def SparesShadows
    (registry : ExpertRegistry)
    (slots : List Nat) : Prop :=
  ∀ slot ∈ slots.takeWhile fun slot => !registry.tailBlocked slot,
    ∀ gid, registry.hostSlots slot = some gid →
      (registry.catalog gid).shadowVramSlot = none

theorem surrenderHostSlot_accounts
    (accounts : Accounts stranded registry place none)
    (held : registry.hostSlots slot = some gid)
    (isWarm : (registry.catalog gid).owner = .warmHost)
    (idle : (registry.catalog gid).operation = .idle)
    (noShadow : (registry.catalog gid).shadowVramSlot = none) :
    Accounts (slot :: stranded) (registry.surrenderHostSlot gid slot)
      (update place gid .cold) none := by
  obtain ⟨inside, _, here⟩ := accounts.host.owner slot gid held
  obtain ⟨host, warm, slotEq⟩ := accounts.warm_of_entry inside isWarm idle
  have fit := accounts.catalog.fits gid inside
  rw [noShadow] at warm
  obtain rfl : host = slot := by
    rw [warm] at here
    simpa using here
  rw [warm] at fit
  have listed : (registry.catalog gid).inLru = true := by
    simpa using fit.inLru
  constructor <;>
    simp only [surrenderHostSlot, removeFromWarmLru, setEntry, setHostSlot,
      update_idem, update_self, listed, if_true]
  case catalog =>
    apply accounts.catalog.update
    · intro _
      constructor <;>
        simp [fit.pendingSlotIdx, fit.operation, fit.gpuTransfer,
          fit.published, fit.shadowVramSlot, fit.warmShadow]
    · rfl
  case vram => apply accounts.vram.move <;> simp [warm]
  case host =>
    have released := accounts.host.release inside warm
    exact { released with free := released.free.perm List.perm_middle.symm }
  case operations => exact accounts.operations.finish rfl
  case ranks =>
    constructor
    · exact rank_keep accounts.ranks.hot (by simp [warm])
    · exact accounts.ranks.warm.erase (rank_drop_iff rfl)
    · exact rank_keep accounts.ranks.shadow (by simp [warm])
  case marks => apply accounts.marks.update <;> simp [warm]
  case frozen => exact accounts.frozen
  case usable => exact accounts.usable
  case sized => exact accounts.sized

/-- A drain stops where its test says, whatever the test is elsewhere. -/
theorem takeWhile_agree
    {test other : Nat → Bool}
    (agree : ∀ slot ∈ slots, test slot = other slot) :
    slots.takeWhile test = slots.takeWhile other := by
  induction slots with
  | nil => rfl
  | cons slot rest step =>
    rw [List.takeWhile_cons, List.takeWhile_cons,
      agree slot List.mem_cons_self,
      step fun later present => agree later (List.mem_cons_of_mem _ present)]

section

variable
    {other : Nat}
    (accounts : Accounts stranded registry place none)
    (held : registry.hostSlots slot = some gid)
    (different : other ≠ slot)

include accounts held different

theorem Accounts.surrenderHostSlot_others :
    (registry.surrenderHostSlot gid slot).hostSlots other =
        registry.hostSlots other ∧
      ∀ resident, registry.hostSlots other = some resident →
        (registry.surrenderHostSlot gid slot).catalog resident =
          registry.catalog resident := by
  constructor
  · simp only [surrenderHostSlot, removeFromWarmLru, setEntry, setHostSlot,
      update_of_ne different]
  · intro resident occupies
    -- Two slots of one expert would be one slot.
    have apart : resident ≠ gid := by
      rintro rfl
      have first := (accounts.host.owner slot resident held).2.2
      have second := (accounts.host.owner other resident occupies).2.2
      rw [first] at second
      exact different (Option.some.inj second).symm
    simp only [surrenderHostSlot, removeFromWarmLru, setEntry, setHostSlot,
      update_of_ne apart]

/-- So what stops the drain elsewhere still stops it. -/
theorem Accounts.tailBlocked_surrender :
    (registry.surrenderHostSlot gid slot).tailBlocked other =
      registry.tailBlocked other := by
  obtain ⟨sameSlot, sameEntry⟩ :=
    accounts.surrenderHostSlot_others held different
  unfold tailBlocked
  rw [sameSlot]
  cases occupies : registry.hostSlots other with
  | none => rfl
  | some resident => simp [sameEntry resident occupies]

end

theorem Accounts.sparesShadows_next
    (accounts : Accounts stranded registry place none)
    (held : registry.hostSlots slot = some gid)
    (absent : slot ∉ rest)
    (spares : SparesShadows registry rest) :
    SparesShadows (registry.surrenderHostSlot gid slot) rest := by
  have apart {other : Nat} (present : other ∈ rest) : other ≠ slot := by
    rintro rfl
    exact absent present
  intro other drained resident occupies
  have present : other ∈ rest := List.takeWhile_subset _ drained
  obtain ⟨sameSlot, sameEntry⟩ :=
    accounts.surrenderHostSlot_others held (apart present)
  rw [sameSlot] at occupies
  rw [sameEntry resident occupies]
  apply spares other _ resident occupies
  have sameTest :
      rest.takeWhile (fun slot => !registry.tailBlocked slot) =
        rest.takeWhile fun other =>
          !(registry.surrenderHostSlot gid slot).tailBlocked other := by
    apply takeWhile_agree
    intro third thirdPresent
    rw [accounts.tailBlocked_surrender held (apart thirdPresent)]
  rw [sameTest]
  exact drained

theorem releaseHostSlots_consistent
    {count : Nat}
    (accounts : Accounts stranded registry place none)
    (unique : slots.Nodup)
    (spares : SparesShadows registry slots) :
    ∃ left,
      Consistent left (releaseHostSlots count registry slots).registry := by
  induction slots generalizing stranded registry place count with
  | nil =>
    simp only [releaseHostSlots, checkedValidate_registry]
    exact ⟨stranded, place, accounts⟩
  | cons slot rest step =>
    obtain ⟨absent, uniqueRest⟩ := List.nodup_cons.mp unique
    unfold releaseHostSlots
    split
    next empty =>
      refine step accounts uniqueRest ?_
      intro other drained
      apply spares other
      have unblocked : registry.tailBlocked slot = false := by
        simp [tailBlocked, empty]
      simp only [List.takeWhile_cons, unblocked, Bool.not_false, if_true]
      exact List.mem_cons_of_mem slot drained
    next gid held =>
      split
      · exact ⟨stranded, place, accounts⟩
      next isWarm =>
        split
        · exact ⟨stranded, place, accounts⟩
        next unpinned =>
          push Not at isWarm unpinned
          have unblocked : registry.tailBlocked slot = false := by
            simp [tailBlocked, held, isWarm, unpinned.1, unpinned.2]
          have sparesRest : SparesShadows registry rest := by
            intro other drained
            apply spares other
            simp only [List.takeWhile_cons, unblocked, Bool.not_false,
              if_true]
            exact List.mem_cons_of_mem slot drained
          have noShadow :=
            spares slot (by simp [unblocked]) gid held
          exact step
            (surrenderHostSlot_accounts accounts held isWarm unpinned.2
              noShadow)
            uniqueRest
            (accounts.sparesShadows_next held absent sparesRest)

theorem releaseHostTail_consistent
    {keep : Nat}
    (consistent : Consistent stranded registry)
    (spares :
      SparesShadows registry
        (List.range' keep (registry.hostCapacityUsable - keep))) :
    ∃ left, Consistent left (registry.releaseHostTail keep).registry := by
  obtain ⟨place, accounts⟩ := consistent
  unfold releaseHostTail
  split
  · exact ⟨stranded, place, accounts⟩
  · exact releaseHostSlots_consistent accounts List.nodup_range' spares

theorem shrinkHostCapacity_cases
    {usable : Nat}
    (consistent : Consistent stranded registry) :
    (registry.hostCapacityUsable ≤ usable ∧
      registry.shrinkHostCapacity usable = .returned () registry) ∨
    (∃ error, registry.shrinkHostCapacity usable = .threw error registry) ∨
      Consistent [] (registry.shrinkHostCapacity usable).registry := by
  obtain ⟨place, accounts⟩ := consistent
  unfold shrinkHostCapacity
  split
  next here => exact Or.inl ⟨here, rfl⟩
  next shrinks =>
    split
    · exact Or.inr (Or.inl ⟨_, rfl⟩)
    next clear =>
      refine Or.inr (Or.inr ?_)
      simp only [checkedValidate_registry]
      have unused :
          ∀ other, usable ≤ other → other < registry.hostCapacityUsable →
            registry.hostSlots other = none ∧
              registry.hostSlotReservations other = 0 := by
        intro other above below
        rw [Bool.not_eq_true, List.any_eq_false] at clear
        have idle := clear other (List.mem_range'_1.mpr (by omega))
        simpa [hostSlotInUse] using idle
      refine ⟨place, ?_⟩
      constructor <;> simp only [rebuildFreeHostSlots, List.append_nil]
      case catalog => exact accounts.catalog
      case vram => exact accounts.vram
      case host =>
        apply accounts.host.shrink unused
        refine ⟨List.nodup_range.filter _, ?_⟩
        intro other
        simp
      case operations => exact accounts.operations
      case ranks => exact accounts.ranks
      case marks => exact accounts.marks
      case frozen => exact accounts.frozen
      case usable =>
        have allocated := accounts.usable
        omega
      case sized => exact accounts.sized

/-! ## Load -/

theorem cleared_accounts
    (layers expertsLayer vramCap hostCap : Nat) :
    Accounts [] (registry.cleared layers expertsLayer vramCap hostCap)
      (fun _ => .cold) none := by
  constructor <;> simp only [cleared, List.append_nil]
  case catalog =>
    refine ⟨?_, fun _ _ => rfl⟩
    intro _ _
    constructor <;> simp
  case vram =>
    constructor
    case free => exact ⟨List.nodup_range, by simp⟩
    all_goals simp
  case host =>
    constructor
    case free => exact ⟨List.nodup_range, by simp⟩
    all_goals simp
  case operations => constructor <;> simp
  case ranks =>
    exact ⟨⟨by simp, by simp⟩, ⟨by simp, by simp⟩, ⟨by simp, by simp⟩⟩
  case marks => constructor <;> simp
  case frozen => exact nofun
  case usable => exact Nat.le_refl hostCap

section

variable
    (accounts : Accounts stranded registry place none)
    (inside : gid < registry.totalExperts)
    (cold : place gid = .cold)

include accounts inside cold

/-- One expert is loaded into VRAM. -/
theorem placeHot_accounts
    (onTop : registry.freeVramSlots = slot :: rest) :
    Accounts stranded (registry.placeHot gid slot rest)
      (update place gid (.hot slot)) none := by
  have fit := accounts.catalog.fits gid inside
  rw [cold] at fit
  have unlisted : (registry.catalog gid).inLru = false := by
    simpa using fit.inLru
  constructor <;>
    simp only [placeHot, pushHotLruFront, setEntry, setVramSlot,
      update_idem, update_self, unlisted,
      Bool.false_eq_true, if_false]
  case catalog =>
    apply accounts.catalog.update
    · intro _
      constructor <;>
        simp [fit.pendingSlotIdx, fit.operation, fit.gpuTransfer,
          fit.published, fit.shadowVramSlot, fit.warmShadow]
    · rfl
  case vram =>
    have side := accounts.vram
    rw [onTop] at side
    exact side.load inside cold
  case host => apply accounts.host.move <;> simp [cold]
  case operations => exact accounts.operations.finish rfl
  case ranks =>
    constructor
    · exact rank_add accounts.ranks.hot inside (by simp [cold]) rfl
    · exact rank_keep accounts.ranks.warm (by simp [cold])
    · exact rank_keep accounts.ranks.shadow (by simp [cold])
  case marks => apply accounts.marks.update <;> simp [cold]
  case frozen => exact accounts.frozen
  case usable => exact accounts.usable
  case sized => exact accounts.sized

/-- One expert is loaded into host memory. -/
theorem placeWarm_accounts
    (onTop : registry.freeHostSlots = slot :: rest) :
    Accounts stranded (registry.placeWarm gid slot rest)
      (update place gid (.warm slot none)) none := by
  have fit := accounts.catalog.fits gid inside
  rw [cold] at fit
  have unlisted : (registry.catalog gid).inLru = false := by
    simpa using fit.inLru
  constructor <;>
    simp only [placeWarm, pushWarmLruFront, setEntry, setHostSlot,
      update_idem, update_self, unlisted,
      Bool.false_eq_true, if_false]
  case catalog =>
    apply accounts.catalog.update
    · intro _
      constructor <;>
        simp [fit.pendingSlotIdx, fit.operation, fit.gpuTransfer,
          fit.published, fit.shadowVramSlot, fit.warmShadow]
    · rfl
  case vram => apply accounts.vram.move <;> simp [cold]
  case host =>
    have side := accounts.host
    rw [onTop] at side
    exact side.load inside cold
  case operations => exact accounts.operations.finish rfl
  case ranks =>
    constructor
    · exact rank_keep accounts.ranks.hot (by simp [cold])
    · exact rank_add accounts.ranks.warm inside (by simp [cold]) rfl
    · exact rank_keep accounts.ranks.shadow (by simp [cold])
  case marks => apply accounts.marks.update <;> simp [cold]
  case frozen => exact accounts.frozen
  case usable => exact accounts.usable
  case sized => exact accounts.sized

end

/-- The experts still to load are distinct, known and Cold. -/
structure Loadable
    (registry : ExpertRegistry)
    (place : Nat → Residency)
    (remaining : List Nat) : Prop where
  nodup : remaining.Nodup
  inside : ∀ gid ∈ remaining, gid < registry.totalExperts
  cold : ∀ gid ∈ remaining, place gid = .cold

theorem Loadable.next
    {loaded : ExpertRegistry}
    (loadable : Loadable registry place (gid :: rest))
    (sameTotal : loaded.totalExperts = registry.totalExperts) :
    Loadable loaded (update place gid here) rest := by
  have unique := List.nodup_cons.mp loadable.nodup
  refine ⟨unique.2, ?_, ?_⟩
  · intro other present
    rw [sameTotal]
    exact loadable.inside other (List.mem_cons_of_mem gid present)
  · intro other present
    have different : other ≠ gid := by
      rintro rfl
      exact unique.1 present
    rw [update_of_ne different]
    exact loadable.cold other (List.mem_cons_of_mem gid present)

theorem populateRoundRobin_consistent
    {preloadWarmHost : Bool}
    {vramAssigned hostAssigned : Nat}
    {remaining : List Nat}
    (accounts : Accounts stranded registry place none)
    (loadable : Loadable registry place remaining) :
    Consistent stranded
      (populateRoundRobin preloadWarmHost vramAssigned hostAssigned registry
        remaining) := by
  induction remaining generalizing registry place vramAssigned
      hostAssigned with
  | nil => exact ⟨place, accounts⟩
  | cons gid rest step =>
    have inside := loadable.inside gid List.mem_cons_self
    have cold := loadable.cold gid List.mem_cons_self
    unfold populateRoundRobin
    split
    · split
      next slot free onTop =>
        apply step (placeHot_accounts accounts inside cold onTop)
        apply loadable.next
        simp only [placeHot, pushHotLruFront, setEntry, setVramSlot]
      · exact ⟨place, accounts⟩
    · split
      · split
        next slot free onTop =>
          apply step (placeWarm_accounts accounts inside cold onTop)
          apply loadable.next
          simp only [placeWarm, pushWarmLruFront, setEntry, setHostSlot]
        · exact ⟨place, accounts⟩
      · split
        · exact ⟨place, accounts⟩
        · have unmoved :
              Loadable registry (update place gid (place gid))
                rest :=
            loadable.next rfl
          rw [Function.update_eq_self] at unmoved
          exact step accounts unmoved

/-- The load visits every expert once. -/
theorem roundRobin_loadable
    (layers expertsLayer vramCap hostCap : Nat) :
    Loadable (registry.cleared layers expertsLayer vramCap hostCap)
      (fun _ => .cold)
      (registry.cleared layers expertsLayer vramCap hostCap).roundRobin := by
  refine ⟨?_, ?_, fun _ _ => rfl⟩
  · unfold roundRobin
    rw [List.nodup_flatMap]
    simp only [cleared]
    constructor
    · intro expert expertInside
      have positive : 0 < expertsLayer :=
        Nat.zero_lt_of_lt (List.mem_range.mp expertInside)
      apply List.nodup_range.map
      intro layer other same
      exact Nat.eq_of_mul_eq_mul_right positive (Nat.add_right_cancel same)
    · apply List.nodup_range.imp_of_mem
      intro expert other expertInside otherInside different gid first second
      obtain ⟨layer, _, rfl⟩ := List.mem_map.mp first
      obtain ⟨otherLayer, _, same⟩ := List.mem_map.mp second
      apply different
      -- The remainder by the layer's width is the expert.
      have remainders := congrArg (· % expertsLayer) same
      simp only [Nat.mul_add_mod_self_right] at remainders
      rw [Nat.mod_eq_of_lt (List.mem_range.mp otherInside),
        Nat.mod_eq_of_lt (List.mem_range.mp expertInside)] at remainders
      exact remainders.symm
  · intro gid present
    simp only [roundRobin, cleared, List.mem_flatMap, List.mem_map,
      List.mem_range] at present ⊢
    obtain ⟨expert, expertInside, layer, layerInside, rfl⟩ := present
    calc
      layer * expertsLayer + expert < (layer + 1) * expertsLayer := by
        rw [Nat.succ_mul]
        omega
      _ ≤ layers * expertsLayer := Nat.mul_le_mul_right _ layerInside

theorem init_consistent
    {layers expertsLayer vramCap hostCap : Nat}
    {preloadWarmHost : Bool}
    (returned :
      registry.init layers expertsLayer vramCap hostCap preloadWarmHost =
        .returned () after) :
    Consistent [] after := by
  unfold ExpertRegistry.init at returned
  split at returned
  · contradiction
  · have built := congrArg Outcome.registry returned
    simp only [validated_registry] at built
    simp only [Outcome.registry] at built
    rw [← built]
    exact populateRoundRobin_consistent
      (cleared_accounts layers expertsLayer vramCap hostCap)
      (roundRobin_loadable layers expertsLayer vramCap hostCap)

end Aeon.Registry
