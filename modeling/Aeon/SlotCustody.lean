import Mathlib.Data.List.Nodup
import Mathlib.Logic.Function.Basic

namespace Aeon.SlotCustody

open Function (update update_apply update_of_ne update_self)

/-!
# Who may use a slot

A pool of slots, a table that says whose bytes a slot holds, a table of the
operations that have reserved a slot, and a free list.  A client has a stake in up
to two slots it sits in, in the slot it is being moved out of, and in the slot an
operation is bringing it into.  `Custody` says that the tables back every stake.
Each lemma is one edit of the tables with what it needs.  Nothing is said about
slots without a stake, which may be lost.  This module names nothing of the
program.
-/

/-- What one client has to do with the slots. -/
structure Stake where
  /-- The slot it sits in. -/
  primary : Option Nat := none
  /-- The slot a second copy of it sits in. -/
  copy : Option Nat := none
  /-- The operation moving it out, with the slot it leaves. -/
  leaving : Option (Nat × Nat) := none
  /-- Whether the bytes it leaves behind are still being read. -/
  copyingOut : Bool := false
  /-- The operation bringing it in, with the slot it comes into. -/
  coming : Option (Nat × Option Nat) := none

/-- The client sits in the slot. -/
def Stake.Sits (stake : Stake) (slot : Nat) : Prop :=
  stake.primary = some slot ∨ stake.copy = some slot

/-- The client's bytes are still being read out of the slot. -/
def Stake.Drains (stake : Stake) (slot : Nat) : Prop :=
  stake.copyingOut = true ∧ ∃ operation, stake.leaving = some (operation, slot)

/-- The client is to come into the slot. -/
def Stake.Claims (stake : Stake) (slot : Nat) : Prop :=
  ∃ operation, stake.coming = some (operation, some slot)

/-- A stake that is part of another. -/
structure Stake.Within (next stake : Stake) : Prop where
  primary : ∀ slot, next.primary = some slot → stake.primary = some slot
  copy : ∀ slot, next.copy = some slot → stake.copy = some slot
  leaving : ∀ move, next.leaving = some move → stake.leaving = some move
  copyingOut : next.leaving ≠ none → next.copyingOut = true →
    stake.copyingOut = true
  coming : ∀ move, next.coming = some move → stake.coming = some move

/-- The tables back one client's stake. -/
structure Backed
    (owner : Nat → Option Nat)
    (reserved : Nat → Nat)
    (issued client : Nat)
    (stake : Stake) : Prop where
  sits : ∀ slot, stake.Sits slot →
    owner slot = some client ∧ reserved slot = 0
  apart : ∀ slot, stake.copy = some slot →
    stake.primary ≠ some slot ∧ ∀ operation, stake.leaving ≠ some (operation, slot)
  drains : ∀ operation slot, stake.leaving = some (operation, slot) →
    stake.copyingOut = true →
      owner slot = some client ∧
        (reserved slot = 0 ∨ reserved slot = operation)
  claims : ∀ operation slot, stake.coming = some (operation, some slot) →
    reserved slot = operation
  leaves : ∀ operation slot, stake.leaving = some (operation, slot) →
    operation ≠ 0 ∧ operation < issued
  comes : ∀ operation target, stake.coming = some (operation, target) →
    operation ≠ 0 ∧ operation < issued

/--
The tables back every stake.  `unplaced` is an operation whose incoming client has
not been told its slot yet.
-/
structure Custody
    (stake : Nat → Stake)
    (owner : Nat → Option Nat)
    (reserved : Nat → Nat)
    (free : List Nat)
    (issued unplaced : Nat) : Prop where
  backed : ∀ client, Backed owner reserved issued client (stake client)
  comesAlone : ∀ client other operation target otherTarget,
    (stake client).coming = some (operation, target) →
      (stake other).coming = some (operation, otherTarget) → client = other
  leavesAlone : ∀ client other operation slot otherSlot,
    (stake client).leaving = some (operation, slot) →
      (stake other).leaving = some (operation, otherSlot) → client = other
  shares : ∀ client other operation target slot,
    (stake client).coming = some (operation, target) →
      (stake other).leaving = some (operation, slot) →
        operation ≠ unplaced → target = some slot
  freeOnce : free.Nodup
  freeEmpty : ∀ slot ∈ free, owner slot = none ∧ reserved slot = 0
  started : 0 < issued

variable {stake : Nat → Stake} {owner : Nat → Option Nat}
variable {reserved : Nat → Nat} {free : List Nat} {issued unplaced : Nat}

namespace Custody

variable {client slot : Nat}
variable {operation : Nat}

section

variable
    (custody : Custody stake owner reserved free issued unplaced)

include custody

theorem owner_of_sits
    (uses : (stake client).Sits slot ∨ (stake client).Drains slot) :
    owner slot = some client := by
  rcases uses with sits | ⟨drains, operation, leaves⟩
  · exact ((custody.backed client).sits slot sits).1
  · exact ((custody.backed client).drains operation slot leaves drains).1

theorem not_sits_of_reserved
    {slot : Nat}
    (taken : reserved slot ≠ 0)
    (client : Nat) :
    ¬ (stake client).Sits slot := fun sits =>
  taken ((custody.backed client).sits slot sits).2

theorem not_claims_of_unreserved
    {slot : Nat}
    (untaken : reserved slot = 0)
    (client : Nat) :
    ¬ (stake client).Claims slot := by
  rintro ⟨operation, comes⟩
  have reserves := (custody.backed client).claims operation slot comes
  exact ((custody.backed client).comes operation _ comes).1 (reserves ▸ untaken)

theorem restake
    (client : Nat)
    (next : Stake)
    (backed : Backed owner reserved issued client next)
    (comes : ∀ operation target, next.coming = some (operation, target) →
      ∀ other, other ≠ client →
        (∀ otherTarget, (stake other).coming ≠ some (operation, otherTarget)) ∧
        (operation ≠ unplaced → ∀ slot,
          (stake other).leaving = some (operation, slot) → target = some slot))
    (leaves : ∀ operation slot, next.leaving = some (operation, slot) →
      ∀ other, other ≠ client →
        (∀ otherSlot, (stake other).leaving ≠ some (operation, otherSlot)) ∧
        (operation ≠ unplaced → ∀ target,
          (stake other).coming = some (operation, target) → target = some slot))
    (both : ∀ operation target slot, next.coming = some (operation, target) →
      next.leaving = some (operation, slot) → operation ≠ unplaced →
        target = some slot) :
    Custody (update stake client next) owner reserved free issued
      unplaced := by
  constructor
  · intro other
    by_cases same : other = client
    · subst same
      simpa using backed
    · simpa [same] using custody.backed other
  · intro first second operation target otherTarget
    have := custody.comesAlone first second operation target otherTarget
    grind [update_apply]
  · intro first second operation slot otherSlot
    have := custody.leavesAlone first second operation slot otherSlot
    grind [update_apply]
  · intro first second operation target slot
    have := custody.shares first second operation target slot
    grind [update_apply]
  · exact custody.freeOnce
  · exact custody.freeEmpty
  · exact custody.started

theorem resign
    (client : Nat)
    (next : Stake)
    (part : next.Within (stake client)) :
    Custody (update stake client next) owner reserved free issued
      unplaced := by
  have backed := custody.backed client
  constructor
  · intro other
    by_cases same : other = client
    · subst same
      rw [update_self]
      constructor
      · rintro slot (sits | sits)
        · exact backed.sits slot (.inl (part.primary slot sits))
        · exact backed.sits slot (.inr (part.copy slot sits))
      · intro slot sits
        obtain ⟨away, gone⟩ := backed.apart slot (part.copy slot sits)
        exact ⟨fun also => away (part.primary slot also),
          fun operation also => gone operation (part.leaving _ also)⟩
      · intro operation slot leaves drains
        exact backed.drains operation slot (part.leaving _ leaves)
          (part.copyingOut (by simp [leaves]) drains)
      · intro operation slot comes
        exact backed.claims operation slot (part.coming _ comes)
      · intro operation slot leaves
        exact backed.leaves operation slot (part.leaving _ leaves)
      · intro operation target comes
        exact backed.comes operation target (part.coming _ comes)
    · rw [update_of_ne same]
      exact custody.backed other
  · intro first second operation target otherTarget
    have := custody.comesAlone first second operation target otherTarget
    grind [update_apply, part.coming]
  · intro first second operation slot otherSlot
    have := custody.leavesAlone first second operation slot otherSlot
    grind [update_apply, part.leaving]
  · intro first second operation target slot
    have := custody.shares first second operation target slot
    grind [update_apply, part.coming, part.leaving]
  · exact custody.freeOnce
  · exact custody.freeEmpty
  · exact custody.started

theorem setOwner
    (slot : Nat)
    (next : Option Nat)
    (unused : ∀ client, ¬ (stake client).Sits slot ∧ ¬ (stake client).Drains slot)
    (kept : slot ∈ free → next = none) :
    Custody stake (update owner slot next) reserved free issued
      unplaced := by
  constructor
  · intro client
    have backed := custody.backed client
    obtain ⟨notSits, notDrains⟩ := unused client
    constructor
    · intro other sits
      have elsewhere : other ≠ slot := fun same => notSits (same ▸ sits)
      simpa [elsewhere] using backed.sits other sits
    · exact backed.apart
    · intro operation other leaves drains
      have elsewhere : other ≠ slot := fun same =>
        notDrains ⟨drains, operation, same ▸ leaves⟩
      simpa [elsewhere] using backed.drains operation other leaves drains
    · exact backed.claims
    · exact backed.leaves
    · exact backed.comes
  · exact custody.comesAlone
  · exact custody.leavesAlone
  · exact custody.shares
  · exact custody.freeOnce
  · intro other isFree
    by_cases same : other = slot
    · subst same
      simpa using ⟨kept isFree, (custody.freeEmpty other isFree).2⟩
    · simpa [same] using custody.freeEmpty other isFree
  · exact custody.started

theorem reserve
    (slot : Nat)
    (unused : ∀ client, ¬ (stake client).Sits slot ∧
      ¬ (stake client).Drains slot ∧ ¬ (stake client).Claims slot)
    (taken : slot ∉ free)
    (operation : Nat) :
    Custody stake owner (update reserved slot operation) free issued
      unplaced := by
  constructor
  · intro client
    have backed := custody.backed client
    obtain ⟨notSits, notDrains, notClaims⟩ := unused client
    constructor
    · intro other sits
      have elsewhere : other ≠ slot := fun same => notSits (same ▸ sits)
      simpa [elsewhere] using backed.sits other sits
    · exact backed.apart
    · intro moving other leaves drains
      have elsewhere : other ≠ slot := fun same =>
        notDrains ⟨drains, moving, same ▸ leaves⟩
      simpa [elsewhere] using backed.drains moving other leaves drains
    · intro moving other comes
      have elsewhere : other ≠ slot := fun same => notClaims ⟨moving, same ▸ comes⟩
      simpa [elsewhere] using backed.claims moving other comes
    · exact backed.leaves
    · exact backed.comes
  · exact custody.comesAlone
  · exact custody.leavesAlone
  · exact custody.shares
  · exact custody.freeOnce
  · intro other isFree
    have elsewhere : other ≠ slot := fun same => taken (same ▸ isFree)
    simpa [elsewhere] using custody.freeEmpty other isFree
  · exact custody.started

/-- A reservation that no incoming client waits for is cancelled. -/
theorem unreserve
    (slot : Nat)
    (unclaimed : ∀ client, ¬ (stake client).Claims slot) :
    Custody stake owner (update reserved slot 0) free issued
      unplaced := by
  constructor
  · intro client
    have backed := custody.backed client
    constructor
    · intro other sits
      have := backed.sits other sits
      grind [update_apply]
    · exact backed.apart
    · intro moving other leaves drains
      have := backed.drains moving other leaves drains
      grind [update_apply]
    · intro moving other comes
      have elsewhere : other ≠ slot := fun same =>
        unclaimed client ⟨moving, same ▸ comes⟩
      simpa [elsewhere] using backed.claims moving other comes
    · exact backed.leaves
    · exact backed.comes
  · exact custody.comesAlone
  · exact custody.leavesAlone
  · exact custody.shares
  · exact custody.freeOnce
  · intro other isFree
    have := custody.freeEmpty other isFree
    grind [update_apply]
  · exact custody.started

theorem push
    {slot : Nat}
    (fresh : slot ∉ free)
    (empty : owner slot = none)
    (untaken : reserved slot = 0) :
    Custody stake owner reserved (slot :: free) issued unplaced :=
  { custody with
    freeOnce := List.nodup_cons.mpr ⟨fresh, custody.freeOnce⟩
    freeEmpty := by
      intro other isFree
      rcases List.mem_cons.mp isFree with rfl | before
      · exact ⟨empty, untaken⟩
      · exact custody.freeEmpty other before }

end

theorem pop
    {slot : Nat}
    (custody : Custody stake owner reserved (slot :: free) issued unplaced) :
    Custody stake owner reserved free issued unplaced ∧ slot ∉ free ∧
      owner slot = none ∧ reserved slot = 0 :=
  ⟨{ custody with
      freeOnce := (List.nodup_cons.mp custody.freeOnce).2
      freeEmpty := fun other isFree =>
        custody.freeEmpty other (List.mem_cons_of_mem slot isFree) },
    (List.nodup_cons.mp custody.freeOnce).1,
    custody.freeEmpty slot List.mem_cons_self⟩

section

variable
    (custody : Custody stake owner reserved free issued unplaced)

include custody

theorem issue
    {later : Nat}
    (more : issued ≤ later) :
    Custody stake owner reserved free later unplaced :=
  { custody with
    started := Nat.lt_of_lt_of_le custody.started more
    backed := fun client =>
      { custody.backed client with
        leaves := fun operation slot leaves =>
          have issued := (custody.backed client).leaves operation slot leaves
          ⟨issued.1, Nat.lt_of_lt_of_le issued.2 more⟩
        comes := fun operation target comes =>
          have issued := (custody.backed client).comes operation target comes
          ⟨issued.1, Nat.lt_of_lt_of_le issued.2 more⟩ } }

theorem unused_of_empty
    {slot : Nat}
    (empty : owner slot = none)
    (client : Nat) :
    ¬ (stake client).Sits slot ∧ ¬ (stake client).Drains slot := by
  constructor
  · intro sits
    simp [custody.owner_of_sits (.inl sits)] at empty
  · intro drains
    simp [custody.owner_of_sits (.inr drains)] at empty

theorem vacate
    (owns : owner slot = some client)
    (left : ¬ (stake client).Sits slot ∧ ¬ (stake client).Drains slot) :
    Custody stake (update owner slot none) reserved free issued
      unplaced := by
  refine custody.setOwner slot none (fun other => ?_) fun _ => rfl
  by_cases same : other = client
  · exact same ▸ left
  · constructor
    · intro sits
      exact same (Option.some.inj ((custody.owner_of_sits (.inl sits)).symm.trans owns))
    · intro drains
      exact same
        (Option.some.inj ((custody.owner_of_sits (.inr drains)).symm.trans owns))

theorem abandon
    (next : Stake)
    (uses : (stake client).Sits slot ∨ (stake client).Drains slot)
    (part : next.Within (stake client))
    (left : ¬ next.Sits slot ∧ ¬ next.Drains slot) :
    Custody (update stake client next) (update owner slot none)
      reserved free issued unplaced := by
  refine (custody.resign client next part).vacate (custody.owner_of_sits uses) ?_
  rw [update_self]
  exact left

theorem notMem_free
    (uses : (stake client).Sits slot ∨ (stake client).Drains slot) :
    slot ∉ free := by
  intro isFree
  have owns := custody.owner_of_sits uses
  rw [(custody.freeEmpty slot isFree).1] at owns
  exact absurd owns (by simp)

end

section

variable
    (custody : Custody stake owner reserved free issued unplaced)
    (next : Stake)
    (sits : (stake client).Sits slot)
    (part : next.Within (stake client))
    (left : ¬ next.Sits slot ∧ ¬ next.Drains slot)

include custody next sits part left

theorem handOver
    (operation : Nat) :
    Custody (update stake client next) (update owner slot none)
      (update reserved slot operation) free issued unplaced := by
  have abandoned := custody.abandon next (.inl sits) part left
  refine abandoned.reserve slot (fun other => ?_) (custody.notMem_free (.inl sits))
    operation
  obtain ⟨notSits, notDrains⟩ :=
    abandoned.unused_of_empty (update_self slot none owner) other
  exact ⟨notSits, notDrains, abandoned.not_claims_of_unreserved
    ((custody.backed client).sits slot sits).2 other⟩

theorem giveBack :
    Custody (update stake client next) (update owner slot none)
      reserved (slot :: free) issued unplaced :=
  (custody.abandon next (.inl sits) part left).push (custody.notMem_free (.inl sits))
    (update_self slot none owner)
    ((custody.backed client).sits slot sits).2

end

theorem mark
    (custody : Custody stake owner reserved free issued operation)
    (sits : (stake client).primary = some slot)
    (fresh : ∀ other otherSlot,
      (stake other).leaving ≠ some (operation, otherSlot))
    (numbered : operation ≠ 0 ∧ operation < issued) :
    Custody
      (update stake client
        { copy := (stake client).copy, leaving := some (operation, slot) })
      owner (update reserved slot operation) free issued operation := by
  have backed := custody.backed client
  have elsewhere : ∀ other, (stake client).copy = some other → other ≠ slot :=
    fun other copy same => (backed.apart other copy).1 (same ▸ sits)
  have resigned := custody.resign client
    { copy := (stake client).copy } (by constructor <;> simp)
  have reserves := resigned.reserve slot (fun other => ?_)
    (custody.notMem_free (.inl (.inl sits))) operation
  · have marked := reserves.restake client
      { copy := (stake client).copy, leaving := some (operation, slot) }
      ?_ (by simp) ?_ (by simp)
    · simpa using marked
    · constructor
      · rintro other (sits | copy)
        · simp at sits
        · have := backed.sits other (.inr copy)
          simpa [elsewhere other copy] using this
      · intro other copy
        refine ⟨by simp, fun moving leaves => ?_⟩
        exact elsewhere other copy
          (by simpa using congrArg (Option.map Prod.snd) leaves.symm)
      · simp
      · simp
      · intro moving other leaves
        have same : operation = moving := by
          simpa using congrArg (Option.map Prod.fst) leaves
        exact same ▸ numbered
      · simp
    · intro moving other leaves third different
      have same : operation = moving := by
        simpa using congrArg (Option.map Prod.fst) leaves
      refine ⟨fun otherSlot => ?_, fun placed => absurd same.symm placed⟩
      rw [update_of_ne different, ← same]
      exact fresh third otherSlot
  · have unclaimed := custody.not_claims_of_unreserved
      (backed.sits slot (.inl sits)).2 other
    by_cases same : other = client
    · subst same
      refine ⟨?_, ?_, ?_⟩
      · rintro (sits | copy)
        · simp at sits
        · exact elsewhere slot (by simpa using copy) rfl
      · simp [Stake.Drains]
      · simp [Stake.Claims]
    · rw [update_of_ne same]
      have owns := custody.owner_of_sits (.inl (.inl sits))
      refine ⟨fun uses => ?_, fun uses => ?_, unclaimed⟩
      · exact same (Option.some.inj
          ((custody.owner_of_sits (.inl uses)).symm.trans owns))
      · exact same (Option.some.inj
          ((custody.owner_of_sits (.inr uses)).symm.trans owns))

theorem drain
    (custody : Custody stake owner reserved free issued unplaced)
    (leaves : (stake client).leaving = some (operation, slot))
    (owns : owner slot = some client)
    (reserves : reserved slot = operation) :
    Custody
      (update stake client { stake client with copyingOut := true })
      owner reserved free issued unplaced := by
  have backed := custody.backed client
  refine custody.restake client _ ?_ ?_ ?_ ?_
  · exact { backed with
      drains := by
        intro moving other leaving _
        obtain ⟨rfl, rfl⟩ : operation = moving ∧ slot = other := by
          simpa [leaves] using leaving
        exact ⟨owns, .inr reserves⟩ }
  · intro moving target comes other different
    refine ⟨fun otherTarget otherComes => ?_, fun placed otherSlot otherLeaves => ?_⟩
    · exact different
        (custody.comesAlone other client moving otherTarget target otherComes comes)
    · exact custody.shares client other moving target otherSlot comes otherLeaves
        placed
  · intro moving other leaving third different
    refine ⟨fun otherSlot otherLeaves => ?_, fun placed target otherComes => ?_⟩
    · exact different
        (custody.leavesAlone third client moving otherSlot other otherLeaves leaving)
    · exact custody.shares third client moving target other otherComes leaving placed
  · intro moving target other comes leaving placed
    exact custody.shares client client moving target other comes leaving placed

/-- An operation whose incoming client is still to be told its slot. -/
theorem unplace
    (custody : Custody stake owner reserved free issued 0)
    (operation : Nat) :
    Custody stake owner reserved free issued operation :=
  { custody with
    shares := fun client other moving target slot comes leaves _ =>
      custody.shares client other moving target slot comes leaves
        ((custody.backed client).comes moving target comes).1 }

theorem place
    (custody : Custody stake owner reserved free issued operation)
    (client : Nat)
    (target : Option Nat)
    (numbered : operation ≠ 0 ∧ operation < issued)
    (alone : ∀ other, other ≠ client → ∀ otherTarget,
      (stake other).coming ≠ some (operation, otherTarget))
    (claims : ∀ slot, target = some slot → reserved slot = operation)
    (shares : ∀ other slot, (stake other).leaving = some (operation, slot) →
      target = some slot) :
    Custody
      (update stake client
        { stake client with coming := some (operation, target) })
      owner reserved free issued 0 := by
  have backed := custody.backed client
  have placed : ∀ moving next, some (operation, target) = some (moving, next) →
      operation = moving ∧ target = next := by
    intro moving next same
    simpa using same
  constructor
  · intro other
    by_cases same : other = client
    · subst same
      rw [update_self]
      exact { backed with
        claims := fun moving slot comes => by
          obtain ⟨rfl, slot_eq⟩ := placed _ _ comes
          exact claims slot slot_eq
        comes := fun moving next comes => by
          obtain ⟨rfl, -⟩ := placed _ _ comes
          exact numbered }
    · rw [update_of_ne same]
      exact custody.backed other
  · intro first second moving next otherNext
    have := custody.comesAlone first second moving next otherNext
    grind [update_apply]
  · intro first second moving slot otherSlot
    have := custody.leavesAlone first second moving slot otherSlot
    grind [update_apply]
  · intro first second moving next slot comes leaves _
    have stays : ∀ third, (update stake client
        { stake client with coming := some (operation, target) } third).leaving =
          (stake third).leaving := by
      intro third
      by_cases same : third = client
      · subst same
        rw [update_self]
      · rw [update_of_ne same]
    rw [stays] at leaves
    by_cases same : first = client
    · subst same
      rw [update_self] at comes
      obtain ⟨rfl, rfl⟩ := placed _ _ comes
      exact shares second slot leaves
    · rw [update_of_ne same] at comes
      refine custody.shares first second moving next slot comes leaves ?_
      rintro rfl
      exact alone first same next comes
  · exact custody.freeOnce
  · exact custody.freeEmpty
  · exact custody.started

section

variable
    (custody : Custody stake owner reserved free issued unplaced)

include custody

theorem settle
    (next : Stake)
    (reserves : reserved slot ≠ 0)
    (drained : ∀ other, ¬ (stake other).Drains slot)
    (alone : ∀ other, other ≠ client → ¬ (stake other).Claims slot)
    (sits : ∀ other, next.Sits other → other = slot ∨
      (stake client).copy = some other)
    (apart : ∀ other, next.copy = some other → next.primary ≠ some other)
    (stays : next.leaving = none)
    (done : next.coming = none) :
    Custody (update stake client next)
      (update owner slot (some client)) (update reserved slot 0)
      free issued unplaced := by
  have taken : slot ∉ free := fun isFree =>
    reserves (custody.freeEmpty slot isFree).2
  have resigned := custody.resign client { copy := (stake client).copy }
    (by constructor <;> simp)
  have owned := resigned.setOwner slot (some client)
    (fun other => ⟨resigned.not_sits_of_reserved reserves other, by
      by_cases same : other = client
      · subst same
        simp [Stake.Drains]
      · rw [update_of_ne same]
        exact drained other⟩)
    (fun isFree => absurd isFree taken)
  have cleared := owned.unreserve slot fun other => by
    by_cases same : other = client
    · subst same
      simp [Stake.Claims]
    · rw [update_of_ne same]
      exact alone other same
  have backed : Backed (update owner slot (some client))
      (update reserved slot 0) issued client next := by
    refine ⟨fun other uses => ?_, fun other copy => ⟨apart other copy, ?_⟩, ?_, ?_,
      ?_, ?_⟩
    · rcases sits other uses with rfl | copy
      · simp
      · have before := (custody.backed client).sits other (.inr copy)
        have elsewhere : other ≠ slot := fun same => reserves (same ▸ before.2)
        simpa [elsewhere] using before
    all_goals simp [stays, done]
  have placed := cleared.restake client next backed (by simp [done])
    (by simp [stays]) (by simp [done])
  rwa [Function.update_idem] at placed

/--
An incoming client gives up its operation: the slot it had reserved is free again,
unless somebody still owns it.
-/
theorem cancel
    {client operation slot : Nat}
    (next : Stake)
    (comes : (stake client).coming = some (operation, some slot))
    (part : next.Within (stake client))
    (done : next.coming = none) :
    Custody (update stake client next) owner
      (update reserved slot 0)
      (if owner slot = none then slot :: free else free) issued unplaced := by
  have backed := custody.backed client
  have reserves := backed.claims operation slot comes
  have numbered := (backed.comes operation _ comes).1
  have taken : slot ∉ free := fun isFree =>
    numbered (reserves ▸ (custody.freeEmpty slot isFree).2)
  have cleared := (custody.resign client next part).unreserve slot fun other => by
    by_cases same : other = client
    · subst same
      simp [Stake.Claims, done]
    · rw [update_of_ne same]
      rintro ⟨moving, otherComes⟩
      have same_operation : operation = moving :=
        reserves.symm.trans ((custody.backed other).claims moving slot otherComes)
      subst same_operation
      exact same (custody.comesAlone other client operation _ _ otherComes comes)
  split
  next empty =>
    exact cleared.push taken empty (update_self slot 0 reserved)
  next => exact cleared

theorem unreserveAll
    (next : Nat → Stake)
    (part : ∀ client, (next client).Within (stake client))
    (stays : ∀ client, (next client).leaving = none)
    (done : ∀ client, (next client).coming = none) :
    Custody next owner (fun _ => 0) free issued unplaced := by
  constructor
  · intro client
    have backed := custody.backed client
    refine ⟨?_, ?_, ?_, ?_, ?_, ?_⟩
    · rintro slot (sits | sits)
      · exact ⟨(backed.sits slot (.inl ((part client).primary slot sits))).1, rfl⟩
      · exact ⟨(backed.sits slot (.inr ((part client).copy slot sits))).1, rfl⟩
    · intro slot copy
      have away := (backed.apart slot ((part client).copy slot copy)).1
      refine ⟨fun sits => away ((part client).primary slot sits), ?_⟩
      simp [stays]
    all_goals simp [stays, done]
  · simp [done]
  · simp [stays]
  · simp [done]
  · exact custody.freeOnce
  · exact fun slot isFree => ⟨(custody.freeEmpty slot isFree).1, rfl⟩
  · exact custody.started

end

end Custody

end Aeon.SlotCustody
