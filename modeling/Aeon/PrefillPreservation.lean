import Aeon.MoveToFront
import Aeon.RegistryFrames
import Aeon.RegistryModes
import Aeon.RegistryModeSwitches

namespace Aeon.Registry

open Function (update update_idem update_of_ne update_self)

/-!
# What a prefill pass keeps

Between a `begin_prefill_stream` and its `end_prefill_stream` a pass reserves,
attaches, completes, fails and releases.  Two things are read off every such call:
what it does to the entries decode will resume on (`Kept`), and what it does to
Warm's recency list (`Reranks`).  The first is nothing; the second is not.
-/

open ExpertRegistry

/-! ## One entry -/

/-- An entry as decode will find it again: a marked or Warm resident stays put. -/
structure EntryKept
    (old new : CatalogEntry) : Prop where
  mark : new.residentAtPrefillBegin = old.residentAtPrefillBegin
  spared :
    old.residentAtPrefillBegin = true →
      new.owner = old.owner ∧ new.slotIdx = old.slotIdx
  warmOwner : new.owner = .warmHost ↔ old.owner = .warmHost
  warmSlot : old.owner = .warmHost → new.slotIdx = old.slotIdx

namespace EntryKept

variable {old middle new : CatalogEntry}

section

variable
    (mark : new.residentAtPrefillBegin = old.residentAtPrefillBegin)

include mark

theorem of_same
    (owner : new.owner = old.owner)
    (slotIdx : new.slotIdx = old.slotIdx) :
    EntryKept old new where
  mark := mark
  spared := fun _ => ⟨owner, slotIdx⟩
  warmOwner := by rw [owner]
  warmSlot := fun _ => slotIdx

/-- An unmarked expert outside Warm may move between VRAM and the drive. -/
theorem of_unmarked
    (unmarked : old.residentAtPrefillBegin = false)
    (notWarm : old.owner ≠ .warmHost)
    (notWarmAfter : new.owner ≠ .warmHost) :
    EntryKept old new where
  mark := mark
  spared := fun marked => by simp [unmarked] at marked
  warmOwner := by simp [notWarm, notWarmAfter]
  warmSlot := fun isWarm => absurd isWarm notWarm

end

theorem refl : EntryKept old old :=
  of_same rfl rfl rfl

theorem trans
    (first : EntryKept old middle)
    (second : EntryKept middle new) :
    EntryKept old new where
  mark := second.mark.trans first.mark
  spared := fun marked => by
    obtain ⟨owner, slotIdx⟩ := first.spared marked
    obtain ⟨ownerAfter, slotIdxAfter⟩ :=
      second.spared (first.mark.trans marked)
    exact ⟨ownerAfter.trans owner, slotIdxAfter.trans slotIdx⟩
  warmOwner := second.warmOwner.trans first.warmOwner
  warmSlot := fun isWarm =>
    (second.warmSlot (first.warmOwner.mpr isWarm)).trans
      (first.warmSlot isWarm)

end EntryKept

/-! ## One call -/

/-- Sizes, flags, demotion count and decode's residents are untouched. -/
structure Kept
    (before after : ExpertRegistry) : Prop where
  settings : after.settings = before.settings
  attempts : after.demotionAttempts = before.demotionAttempts
  entries : ∀ gid, EntryKept (before.catalog gid) (after.catalog gid)

/-- Warm's recency list and the shadow copies in flight are untouched too. -/
structure Quiet
    (before after : ExpertRegistry) : Prop extends Kept before after where
  ranking : after.warmHostLru = before.warmHostLru
  copying :
    ∀ gid, (after.catalog gid).warmShadow = (before.catalog gid).warmShadow

/--
What a call does to Warm's recency list: nothing, it takes one expert out whose
shadow copy starts, or it puts one back at the front whose shadow copy ended.
-/
inductive Reranks
    (before after : ExpertRegistry) : Option Nat → Prop where
  | same
      (ranking : after.warmHostLru = before.warmHostLru)
      (copying :
        ∀ gid, (after.catalog gid).warmShadow =
          (before.catalog gid).warmShadow) :
      Reranks before after none
  | leaves
      (gid : Nat)
      (ranking : after.warmHostLru = before.warmHostLru.erase gid)
      (copying :
        ∀ other, (after.catalog other).warmShadow =
          ((before.catalog other).warmShadow || decide (other = gid))) :
      Reranks before after none
  | settles
      (gid : Nat)
      (wasCopying : (before.catalog gid).warmShadow = true)
      (ranking : after.warmHostLru = gid :: before.warmHostLru)
      (copying :
        ∀ other, (after.catalog other).warmShadow =
          ((before.catalog other).warmShadow && decide (other ≠ gid))) :
      Reranks before after (some gid)

/-- The whole effect of one call of a pass that settles `settled`. -/
structure PassStep
    (before after : ExpertRegistry)
    (settled : Option Nat) : Prop where
  kept : Kept before after
  reranks : Reranks before after settled

variable
    {stranded : List Nat}
    {registry before middle after : ExpertRegistry}
    {place : Nat → Residency}
    {dangling : Option (Nat × Nat)}
    {gid slot operationId : Nat}
    {settled : Option Nat}

theorem Kept.refl : Kept registry registry :=
  ⟨rfl, rfl, fun _ => .refl⟩

theorem Kept.trans
    (first : Kept before middle)
    (second : Kept middle after) :
    Kept before after where
  settings := second.settings.trans first.settings
  attempts := second.attempts.trans first.attempts
  entries := fun gid => (first.entries gid).trans (second.entries gid)

theorem Quiet.refl : Quiet registry registry :=
  ⟨.refl, rfl, fun _ => rfl⟩

theorem Quiet.trans
    (first : Quiet before middle)
    (second : Quiet middle after) :
    Quiet before after where
  toKept := first.toKept.trans second.toKept
  ranking := second.ranking.trans first.ranking
  copying := fun gid => (second.copying gid).trans (first.copying gid)

theorem Quiet.passStep
    (quiet : Quiet before after) :
    PassStep before after none :=
  ⟨quiet.toKept, .same quiet.ranking quiet.copying⟩

theorem Quiet.andThen
    (quiet : Quiet before middle)
    (rest : PassStep middle after settled) :
    PassStep before after settled := by
  refine ⟨quiet.toKept.trans rest.kept, ?_⟩
  cases rest.reranks with
  | same ranking copying =>
    exact .same (ranking.trans quiet.ranking)
      fun gid => (copying gid).trans (quiet.copying gid)
  | leaves gid ranking copying =>
    refine .leaves gid ?_ ?_
    · rw [ranking, quiet.ranking]
    · intro other
      rw [copying, quiet.copying]
  | settles gid wasCopying ranking copying =>
    refine .settles gid ?_ ?_ ?_
    · rw [← quiet.copying]
      exact wasCopying
    · rw [ranking, quiet.ranking]
    · intro other
      rw [copying, quiet.copying]

variable {entry : CatalogEntry}
variable {capacity : Nat}

section

variable
    (settings : after.settings = before.settings)
    (attempts : after.demotionAttempts = before.demotionAttempts)

include settings attempts

/-- One entry was replaced, and its owner, mark and copy are the old ones. -/
theorem Kept.of_update
    (catalog : after.catalog = update before.catalog gid entry)
    (kept : EntryKept (before.catalog gid) entry) :
    Kept before after := by
  refine ⟨settings, attempts, ?_⟩
  intro other
  rw [catalog]
  by_cases same : other = gid
  · subst same
    rw [update_self]
    exact kept
  · rw [update_of_ne same]
    exact .refl

theorem Quiet.of_update
    (catalog : after.catalog = update before.catalog gid entry)
    (ranking : after.warmHostLru = before.warmHostLru)
    (kept : EntryKept (before.catalog gid) entry)
    (copying : entry.warmShadow = (before.catalog gid).warmShadow) :
    Quiet before after := by
  refine ⟨.of_update settings attempts catalog kept, ranking, ?_⟩
  intro other
  rw [catalog]
  by_cases same : other = gid
  · subst same
    rw [update_self]
    exact copying
  · rw [update_of_ne same]

/-- Nothing of the catalog was written. -/
theorem Quiet.of_catalog
    (catalog : after.catalog = before.catalog)
    (ranking : after.warmHostLru = before.warmHostLru) :
    Quiet before after := by
  refine ⟨⟨settings, attempts, ?_⟩, ranking, ?_⟩
  · intro other
    rw [catalog]
    exact .refl
  · intro other
    rw [catalog]

end

/-! ## Destinations -/

theorem takeHotSlot_quiet
    (isHot : (registry.catalog gid).owner = .hotVram)
    (unmarked : (registry.catalog gid).residentAtPrefillBegin = false) :
    Quiet registry (registry.takeHotSlot gid slot operationId) := by
  apply Quiet.of_update
  case catalog =>
    simp only [takeHotSlot, removeFromHotLru, setEntry, setVramSlot,
      setVramReservation, update_idem, update_self]
    rfl
  case settings => exact (Frame.refl 0 registry).takeHotSlot.settings
  case attempts =>
    simp only [takeHotSlot, setVramReservation, setEntry, setVramSlot,
      removeFromHotLru]
  case ranking =>
    simp only [takeHotSlot, setVramReservation, setEntry, setVramSlot,
      removeFromHotLru]
  case kept => exact .of_unmarked rfl unmarked (by simp [isHot]) (by simp)
  case copying => rfl

theorem reserveVramDestination_quiet
    (accounts : Accounts stranded registry place none)
    (streaming : registry.prefillStream = true) :
    Quiet registry
      (registry.reserveVramDestination gid operationId capacity).registry := by
  unfold reserveVramDestination
  split
  · exact .of_catalog rfl rfl rfl rfl
  · split
    · exact .refl
    · rw [if_pos (by simp [streaming])]
      unfold evictForPrefill
      split
      next other found =>
        apply Quiet.of_update
        case catalog => rfl
        case settings => rfl
        case attempts => rfl
        case ranking => rfl
        case kept => exact .of_same rfl rfl rfl
        case copying => rfl
      next =>
        split
        next other found =>
          obtain ⟨ranked, reclaimable⟩ := mem_of_find?_reverse found
          obtain ⟨inside, source, hot, _⟩ := accounts.hot_of_ranked ranked
          simp only [hotReclaimable, Bool.true_and, Bool.not_eq_true',
            Bool.or_eq_false_iff] at reclaimable
          have isHot : (registry.catalog other).owner = .hotVram := by
            rw [(accounts.catalog.fits other inside).owner, hot]
            rfl
          exact takeHotSlot_quiet isHot reclaimable.1.1.1.1.2
        next => exact .refl

/-! ## Requests -/

theorem finishShadowReservation_step
    {target : Option Nat}
    (listed : (registry.catalog gid).inLru = true) :
    PassStep registry
      (registry.finishShadowReservation gid operationId target).registry
      none := by
  simp only [finishShadowReservation, checkedValidate_registry]
  have catalogEq :
      (({ registry with
          hitsWarm := registry.hitsWarm + 1
          shadowCopies := registry.shadowCopies + 1 }.removeFromWarmLru
            gid).beginOperation gid operationId .promotionPending target
              true).catalog =
        update registry.catalog gid
          { registry.catalog gid with
            inLru := false
            operation := .promotionPending
            operationId := operationId
            gpuTransfer := .h2dPending
            publication := .unpublished
            slotState := .active
            leaseCount := (registry.catalog gid).leaseCount + 1
            pendingSlotIdx := target
            warmShadow := true } := by
    simp only [beginOperation, removeFromWarmLru, setEntry,
      update_idem, update_self, Bool.true_or]
  constructor
  case kept =>
    exact .of_update rfl rfl catalogEq (.of_same rfl rfl rfl)
  case reranks =>
    refine .leaves gid ?_ ?_
    · simp only [beginOperation, removeFromWarmLru, setEntry, listed, if_true]
    · intro other
      rw [catalogEq]
      by_cases same : other = gid
      · subst same
        simp
      · simp [same]

theorem finishColdRead_quiet
    {destination : Option VramDestination} :
    Quiet registry
      (registry.finishColdRead gid operationId destination).registry := by
  simp only [finishColdRead, checkedValidate_registry]
  apply Quiet.of_update
  case catalog => rfl
  case settings => rfl
  case attempts => rfl
  case ranking => rfl
  case kept => exact .of_same rfl rfl rfl
  case copying => simp

theorem reserveTransfer_step
    {stageOnly : Bool}
    (accounts : Accounts stranded registry place none)
    (streaming : registry.prefillStream = true)
    (inside : gid < registry.totalExperts)
    (idle : (registry.catalog gid).operation = .idle)
    (noShadow : (registry.catalog gid).shadowVramSlot = none) :
    PassStep registry
      (registry.reserveTransfer gid capacity stageOnly).registry none := by
  have frozen := accounts.frozen streaming
  have notShadowed : (place gid).isShadowed = false := by
    have shadowEq := (accounts.catalog.fits gid inside).shadowVramSlot
    rw [Residency.isShadowed_eq, ← shadowEq, noShadow]
    rfl
  obtain ⟨numbered, requestable, _⟩ :=
    takeOperationId_accounts accounts notShadowed
  have issued : Quiet registry registry.takeOperationId :=
    .of_catalog rfl rfl rfl rfl
  have destination :
      Quiet registry.takeOperationId
        (registry.takeOperationId.reserveVramDestination gid
          registry.nextOperationId capacity).registry :=
    reserveVramDestination_quiet numbered streaming
  unfold reserveTransfer
  simp only
  split
  next isWarm =>
    obtain ⟨host, warm, _⟩ := accounts.warm_of_entry inside isWarm idle
    have listed : (registry.catalog gid).inLru = true := by
      rw [(accounts.catalog.fits gid inside).inLru, warm]
      rfl
    rw [if_pos frozen]
    split
    · exact issued.andThen (finishShadowReservation_step listed)
    · split
      next error after refused =>
        rw [refused] at destination
        exact (issued.trans destination).passStep
      next target after reserved =>
        obtain ⟨moved, _, unmoved, _⟩ :=
          reserveVramDestination_accounts numbered requestable reserved
        rw [reserved] at destination
        refine (issued.trans destination).andThen
          (finishShadowReservation_step ?_)
        show (after.catalog gid).inLru = true
        rw [unmoved.entry]
        exact listed
  next =>
    split
    · exact (issued.trans finishColdRead_quiet).passStep
    · split
      next error after refused =>
        rw [refused] at destination
        exact (issued.trans destination).passStep
      next target after reserved =>
        rw [reserved] at destination
        exact ((issued.trans destination).trans
          finishColdRead_quiet).passStep

/-- An entry write that only counts. -/
theorem setEntry_quiet
    (mark :
      entry.residentAtPrefillBegin =
        (registry.catalog gid).residentAtPrefillBegin)
    (owner : entry.owner = (registry.catalog gid).owner)
    (slotIdx : entry.slotIdx = (registry.catalog gid).slotIdx)
    (copying : entry.warmShadow = (registry.catalog gid).warmShadow) :
    Quiet registry (registry.setEntry gid entry) :=
  .of_update rfl rfl rfl rfl (.of_same mark owner slotIdx) copying

theorem touchHotLru_quiet :
    Quiet registry
      ({ registry with hitsHot := registry.hitsHot + 1 }.touchHotLru gid) := by
  apply Quiet.of_update
  case catalog =>
    simp only [touchHotLru, removeFromHotLru, pushHotLruFront, setEntry,
      update_idem, update_self]
    rfl
  case settings => rfl
  case attempts => rfl
  case ranking => rfl
  case kept => exact .of_same rfl rfl rfl
  case copying => rfl

theorem reserveRequestByGid_step
    {step capacity : Nat}
    {stageOnly : Bool}
    (accounts : Accounts stranded registry place none)
    (streaming : registry.prefillStream = true) :
    PassStep registry
      (registry.reserveRequestByGid gid step capacity stageOnly).registry
      none := by
  unfold reserveRequestByGid
  split
  · exact Quiet.refl.passStep
  next notOutside =>
    have inside : gid < registry.totalExperts := by omega
    have counted : Quiet registry (registry.recordActivation gid step) :=
      setEntry_quiet rfl rfl rfl rfl
    have active :
        Accounts stranded (registry.recordActivation gid step) place none :=
      recordActivation_accounts accounts inside
    have insideActive :
        gid < (registry.recordActivation gid step).totalExperts := by
      simpa only [recordActivation, setEntry] using inside
    have streamingActive :
        (registry.recordActivation gid step).prefillStream = true := by
      simpa only [recordActivation, setEntry] using streaming
    generalize registry.recordActivation gid step = current at *
    have leased :
        ∀ other : ExpertRegistry, Quiet other (other.acquireLease gid) :=
      fun _ => setEntry_quiet rfl rfl rfl rfl
    simp only
    split
    · split
      · exact counted.passStep
      · exact (counted.trans (leased current)).passStep
    next settledEntry =>
      have idle : (current.catalog gid).operation = .idle := by
        by_contra busy
        exact settledEntry (Or.inl busy)
      split
      · exact ((counted.trans touchHotLru_quiet).trans (leased _)).passStep
      next notHot =>
        split
        next shadowHit =>
          have touched :
              Quiet current
                ({ current with
                    hitsHot := current.hitsHot + 1 }.shadowTouch gid) :=
            .of_catalog rfl rfl rfl rfl
          exact ((counted.trans touched).trans (leased _)).passStep
        next noHit =>
          refine counted.andThen
            (reserveTransfer_step active streamingActive insideActive idle ?_)
          by_contra hasShadow
          have shadowed := Option.isSome_iff_ne_none.mpr hasShadow
          obtain ⟨frozen, isWarm⟩ :=
            active.shadow_of_entry insideActive shadowed
          exact noHit ⟨frozen, isWarm, shadowed⟩

theorem attachVramDestination_quiet
    (accounts : Accounts stranded registry place none)
    (streaming : registry.prefillStream = true) :
    Quiet registry
      (registry.attachVramDestination operationId capacity).registry := by
  unfold attachVramDestination
  split
  · exact .refl
  next gid found =>
    split
    · exact .refl
    · have destination :
          Quiet registry
            (registry.reserveVramDestination gid operationId
              capacity).registry :=
        reserveVramDestination_quiet accounts streaming
      split
      next error after refused =>
        rw [refused] at destination
        exact destination
      next target after reserved =>
        rw [reserved] at destination
        exact destination.trans (setEntry_quiet rfl rfl rfl rfl)

theorem releaseLease_quiet :
    Quiet registry (registry.releaseLease gid).registry := by
  unfold releaseLease
  split
  · exact .refl
  · exact setEntry_quiet rfl rfl rfl rfl

/-! ## Completions and failures -/

section

variable
    (accounts : Accounts stranded registry place none)
    (streaming : registry.prefillStream = true)

include accounts streaming

theorem Accounts.findOperationVictim_eq_none :
    registry.findOperationVictim operationId = none := by
  cases found : registry.findOperationVictim operationId with
  | none => rfl
  | some victim =>
    obtain ⟨inside, slot, destination, evicted⟩ :=
      accounts.victim_of_found found
    have admitted := accounts.catalog.admitted victim inside
    rw [evicted, streaming] at admitted
    contradiction

theorem Accounts.reading_of_incoming
    (inside : gid < registry.totalExperts)
    (comes : (place gid).incoming = some operationId)
    (notCopying : (registry.catalog gid).warmShadow = false) :
    (registry.catalog gid).owner = .coldNvme ∧
      (registry.catalog gid).residentAtPrefillBegin = false := by
  have fit := accounts.catalog.fits gid inside
  have admitted := accounts.catalog.admitted gid inside
  rw [fit.warmShadow] at notCopying
  constructor
  · rw [fit.owner]
    cases here : place gid <;> simp_all
  · by_contra marked
    have isHot :=
      (accounts.marks.marked gid inside (by simpa using marked)).2
    cases here : place gid <;> simp_all

end

theorem settles_step
    (settings : after.settings = before.settings)
    (attempts : after.demotionAttempts = before.demotionAttempts)
    (catalog : after.catalog = update before.catalog gid entry)
    (ranking : after.warmHostLru = gid :: before.warmHostLru)
    (kept : EntryKept (before.catalog gid) entry)
    (wasCopying : (before.catalog gid).warmShadow = true)
    (landed : entry.warmShadow = false) :
    PassStep before after (some gid) := by
  refine ⟨.of_update settings attempts catalog kept, .settles gid wasCopying
    ranking ?_⟩
  intro other
  rw [catalog]
  by_cases same : other = gid
  · subst same
    simp [landed]
  · simp [same]

/-- The expert whose shadow copy a call ends, if it ends one. -/
def RegistryOperation.settles
    (registry : ExpertRegistry) :
    RegistryOperation → Option Nat
  | .completeRequest operationId =>
    (registry.findIncomingOperation operationId).filter fun gid =>
      (registry.catalog gid).warmShadow &&
        (registry.catalog gid).pendingSlotIdx.isSome
  | .failRequest operationId =>
    (registry.findIncomingOperation operationId).filter fun gid =>
      (registry.catalog gid).warmShadow
  | _ => none

section

variable
    (accounts : Accounts stranded registry place none)
    (streaming : registry.prefillStream = true)

include accounts streaming

theorem completeRequest_step :
    PassStep registry (registry.completeRequest operationId).registry
      ((RegistryOperation.completeRequest operationId).settles registry) := by
  unfold completeRequest RegistryOperation.settles
  simp only
  cases found : registry.findIncomingOperation operationId with
  | none => exact Quiet.refl.passStep
  | some gid =>
    obtain ⟨inside, comes⟩ := accounts.incoming_of_found found
    have fit := accounts.catalog.fits gid inside
    have copies : (registry.catalog gid).gpuTransfer = .h2dPending := by
      rw [fit.gpuTransfer]
      cases here : place gid <;> simp_all
    simp only
    rw [if_neg (by simp [copies])]
    cases target : (registry.catalog gid).pendingSlotIdx with
    | none =>
      simp only [Option.filter, target, Option.isSome_none, Bool.and_false]
      exact Quiet.refl.passStep
    | some slot =>
      simp only
      have claims :
          (place gid).vramClaim = some (operationId, slot) := by
        have pendingEq := fit.pendingSlotIdx
        rw [target] at pendingEq
        obtain ⟨⟨id, claimedSlot⟩, claims, rfl⟩ :=
          Option.map_eq_some_iff.mp pendingEq.symm
        have sameId := (Residency.incoming_of_vramClaim claims).1
        rw [comes] at sameId
        rw [claims, Option.some.inj sameId]
      have isReserved :=
        (accounts.vram.claimed gid operationId slot inside claims).1
      rw [if_neg (by simp [isReserved])]
      cases copying : (registry.catalog gid).warmShadow with
      | true =>
        have unlisted : (registry.catalog gid).inLru = false := by
          have copyEq := fit.warmShadow
          rw [fit.inLru]
          cases here : place gid <;> simp_all
        simp only [if_true, Option.filter, copying, target,
          Option.isSome_some, Bool.and_true, checkedValidate_registry]
        apply settles_step
        case catalog =>
          simp only [publishShadow, pushWarmLruFront, shadowTouch,
            setEntry, setVramSlot, setVramReservation, shadowedEntry,
            update_idem, update_self]
          rfl
        case settings => exact (Frame.refl 0 registry).publishShadow.settings
        case attempts =>
          simp only [publishShadow, pushWarmLruFront, shadowTouch,
            setEntry, setVramSlot, setVramReservation]
        case ranking =>
          simp only [publishShadow, pushWarmLruFront, shadowTouch,
            setEntry, setVramSlot, setVramReservation, shadowedEntry,
            update_self, unlisted, Bool.false_eq_true,
            if_false]
        case kept => exact .of_same rfl rfl rfl
        case wasCopying => exact copying
        case landed => rfl
      | false =>
        obtain ⟨isCold, unmarked⟩ :=
          accounts.reading_of_incoming streaming inside comes copying
        simp only [Bool.false_eq_true, if_false, Option.filter, copying,
          Bool.false_and,
          accounts.findOperationVictim_eq_none streaming, retireVictim,
          Option.any_none, isCold, reduceCtorEq,
          checkedValidate_registry]
        apply Quiet.passStep
        apply Quiet.of_update
        case catalog =>
          simp only [publishHot, pushHotLruFront, setEntry, setVramSlot,
            setVramReservation, hotEntry, update_idem,
            update_self]
          rfl
        case settings => exact (Frame.refl 0 registry).publishHot.settings
        case attempts =>
          simp only [publishHot, pushHotLruFront, setEntry, setVramSlot,
            setVramReservation]
        case ranking =>
          simp only [publishHot, pushHotLruFront, setEntry, setVramSlot,
            setVramReservation]
        case kept =>
          exact .of_unmarked rfl unmarked (by simp [isCold]) (by simp)
        case copying => rfl

theorem failRequest_step :
    PassStep registry (registry.failRequest operationId).registry
      ((RegistryOperation.failRequest operationId).settles registry) := by
  unfold failRequest RegistryOperation.settles
  simp only
  cases found : registry.findIncomingOperation operationId with
  | none => exact Quiet.refl.passStep
  | some gid =>
    obtain ⟨inside, comes⟩ := accounts.incoming_of_found found
    have fit := accounts.catalog.fits gid inside
    simp only
    cases copying : (registry.catalog gid).warmShadow with
    | true =>
      have unlisted : (registry.catalog gid).inLru = false := by
        have copyEq := fit.warmShadow
        rw [fit.inLru]
        cases here : place gid <;> simp_all
      simp only [if_true, Option.filter, copying,
        checkedValidate_registry]
      rw [cancelVramReservation_eq]
      apply settles_step
      case catalog =>
        simp only [pushWarmLruFront, setEntry, shadowedEntry,
          update_idem, update_self]
        rfl
      case settings => rfl
      case attempts => rfl
      case ranking =>
        simp only [pushWarmLruFront, setEntry, shadowedEntry,
          update_self, unlisted, Bool.false_eq_true, if_false]
      case kept => exact .of_same rfl rfl rfl
      case wasCopying => exact copying
      case landed => rfl
    | false =>
      obtain ⟨isCold, unmarked⟩ :=
        accounts.reading_of_incoming streaming inside comes copying
      simp only [Bool.false_eq_true, if_false, Option.filter, copying,
        accounts.findOperationVictim_eq_none streaming, releaseVictim,
        Option.any_none, checkedValidate_registry]
      rw [cancelVramReservation_eq]
      simp only [isCold, reduceCtorEq, if_false]
      apply Quiet.passStep
      apply Quiet.of_update
      case catalog => rfl
      case settings => rfl
      case attempts => rfl
      case ranking => rfl
      case kept => exact .of_same rfl rfl rfl
      case copying => rfl

end

/-! ## Releases -/

/-- One expert of a computed layer in a pass. -/
theorem releaseExpert_quiet
    (accounts : Accounts stranded registry place none)
    (inside : gid < registry.totalExperts)
    (idle : (registry.catalog gid).operation = .idle) :
    Quiet registry (registry.releaseExpert gid) := by
  unfold releaseExpert
  by_cases admitted :
      (registry.catalog gid).owner = .hotVram ∧
        !(registry.catalog gid).residentAtPrefillBegin
  · obtain ⟨slot, hot, slotEq⟩ :=
      accounts.hot_of_entry inside admitted.1 idle
    have unmarked :
        (registry.catalog gid).residentAtPrefillBegin = false := by
      simpa using admitted.2
    have noShadow : (registry.catalog gid).shadowVramSlot = none := by
      rw [(accounts.catalog.fits gid inside).shadowVramSlot, hot]
      rfl
    have catalogEq :
        (registry.releaseHotResident gid).catalog =
          update registry.catalog gid
            { registry.catalog gid with
              inLru := false
              owner := .coldNvme
              slotIdx := none
              slotState := .unallocated } := by
      simp only [releaseHotResident, removeFromHotLru, setEntry, setVramSlot,
        pushFreeVram, slotEq, update_idem, update_self]
    have stillNone :
        ((registry.releaseHotResident gid).catalog gid).shadowVramSlot =
          none := by
      rw [catalogEq, update_self]
      exact noShadow
    simp only [admitted, if_true, and_self, stillNone]
    apply Quiet.of_update
    case catalog => exact catalogEq
    case settings =>
      simp only [settings, releaseHotResident, removeFromHotLru, setEntry,
        setVramSlot, pushFreeVram, slotEq]
    case attempts =>
      simp only [releaseHotResident, removeFromHotLru, setEntry, setVramSlot,
        pushFreeVram, slotEq]
    case ranking =>
      simp only [releaseHotResident, removeFromHotLru, setEntry, setVramSlot,
        pushFreeVram, slotEq]
    case kept =>
      exact .of_unmarked rfl unmarked (by simp [admitted.1]) (by simp)
    case copying => rfl
  · simp only [admitted, if_false]
    split
    · apply Quiet.of_update
      case catalog => rfl
      case settings => rfl
      case attempts => rfl
      case ranking => rfl
      case kept => exact .of_same rfl rfl rfl
      case copying => rfl
    · exact .refl

theorem releaseExperts_quiet
    {layerId : Nat}
    {layer : List Nat}
    (accounts : Accounts stranded registry place none)
    (inside : ∀ gid ∈ layer, gid < registry.totalExperts) :
    Quiet registry (releaseExperts layerId registry layer).registry := by
  induction layer generalizing registry place with
  | nil =>
    simp only [releaseExperts, validated_registry]
    exact .refl
  | cons gid rest step =>
    unfold releaseExperts
    split
    · exact .refl
    · split
      · exact .refl
      next busy =>
        have idle := not_not.mp busy
        have insideGid := inside gid List.mem_cons_self
        obtain ⟨moved, released, sameTotal⟩ :=
          releaseExpert_accounts accounts insideGid idle
        refine (releaseExpert_quiet accounts insideGid idle).trans
          (step released ?_)
        intro other present
        rw [sameTotal]
        exact inside other (List.mem_cons_of_mem gid present)

theorem releaseLayer_quiet
    {layerId : Nat}
    (accounts : Accounts stranded registry place none) :
    Quiet registry (registry.releaseLayer layerId).registry := by
  unfold releaseLayer
  split
  · exact .refl
  · split
    · exact .refl
    next inRange =>
      exact releaseExperts_quiet accounts
        (accounts.layer_inside (Nat.not_le.mp inRange))

/-! ## Passes -/

/-- The calls of a pass between its entry and its exit. -/
def RegistryOperation.inPass : RegistryOperation → Bool
  | .reserveRequestByGid _ _ _ _ => true
  | .attachVramDestination _ _ => true
  | .completeRequest _ => true
  | .failRequest _ => true
  | .releaseLease _ => true
  | .releaseLayer _ => true
  | _ => false

theorem pass_step
    {operation : RegistryOperation}
    (accounts : Accounts stranded registry place none)
    (streaming : registry.prefillStream = true)
    (inPass : operation.inPass = true) :
    PassStep registry (operation.perform registry).registry
      (operation.settles registry) := by
  cases operation with
  | reserveRequestByGid =>
    simp only [RegistryOperation.perform, Outcome.discard_registry]
    exact reserveRequestByGid_step accounts streaming
  | attachVramDestination =>
    simp only [RegistryOperation.perform, Outcome.discard_registry]
    exact (attachVramDestination_quiet accounts streaming).passStep
  | completeRequest => exact completeRequest_step accounts streaming
  | failRequest => exact failRequest_step accounts streaming
  | releaseLease => exact releaseLease_quiet.passStep
  | releaseLayer => exact (releaseLayer_quiet accounts).passStep
  | _ => contradiction

end Aeon.Registry
