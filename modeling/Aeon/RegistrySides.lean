import Aeon.RegistryPlacement

namespace Aeon.Registry

open Function (update_apply update_of_ne update_self)

/-!
# One move at a time

Each lemma here moves one expert and edits one side of the registry: a VRAM slot
released, reserved, claimed, filled or vacated; a host slot given up, kept or
copied into; an operation begun; an expert ranked or unranked.  The registry's
calls are assembled from them.
-/

variable
    {total : Nat}
    {place : Nat → Residency}
    {gid slot operationId : Nat}
    {next : Residency}

theorem exists_claim_update
    {claim : Residency → Option (Nat × Nat)}
    {value : Nat × Nat}
    (found : ∃ other, other < total ∧ claim (place other) = some value)
    (notMoved : claim (place gid) ≠ some value) :
    ∃ other, other < total ∧
      claim (Function.update place gid next other) = some value := by
  obtain ⟨other, inside, claims⟩ := found
  refine ⟨other, inside, ?_⟩
  have different : other ≠ gid := by
    rintro rfl
    exact notMoved claims
  rw [update_of_ne different]
  exact claims

/-! ## VRAM -/

section Vram

variable
    {capacity : Nat}
    {slots : Nat → Option Nat}
    {reserved : Nat → Nat}
    {free : List Nat}
    {dangling : Option (Nat × Nat)}

theorem VramSide.move
    (side : VramSide total capacity slots reserved free place dangling)
    (slotKept : next.vramSlot = (place gid).vramSlot)
    (claimKept : next.vramClaim = (place gid).vramClaim)
    (victimKept : next.victim = (place gid).victim) :
    VramSide total capacity slots reserved free
      (Function.update place gid next) dangling := by
  constructor
  case owner =>
    have owner := side.owner
    grind [update_apply]
  case owned =>
    have owned := side.owned
    grind [update_apply]
  case claimant =>
    intro other isReserved
    obtain ⟨bound, ⟨id, inside, claims⟩ | dangles⟩ :=
      side.claimant other isReserved
    · refine ⟨bound, Or.inl ⟨id, inside, ?_⟩⟩
      grind [update_apply]
    · exact ⟨bound, Or.inr dangles⟩
  case claimed =>
    have claimed := side.claimed
    grind [update_apply]
  case danglingClaimed => exact side.danglingClaimed
  case victimReserved =>
    have victimReserved := side.victimReserved
    grind [update_apply]
  case reservedHeld =>
    have reservedHeld := side.reservedHeld
    grind [update_apply]
  case free => exact side.free

theorem VramSide.release
    (side : VramSide total capacity slots reserved free place none)
    (inside : gid < total)
    (holds : (place gid).vramSlot = some slot)
    (notVictim : (place gid).victim = none)
    (leaves : next.vramSlot = none)
    (unclaimed : next.vramClaim = none) :
    VramSide total capacity (Function.update slots slot none) reserved
      (slot :: free) (Function.update place gid next) none := by
  have held := side.owned gid slot inside holds
  have bound := (side.owner slot gid held).2.1
  have unreserved : reserved slot = 0 := by
    by_contra isReserved
    have evicted := side.reservedHeld slot gid isReserved held
    rw [notVictim] at evicted
    contradiction
  constructor
  case owner =>
    have owner := side.owner
    grind [update_apply]
  case owned =>
    have owned := side.owned
    grind [update_apply]
  case claimant =>
    intro other isReserved
    obtain ⟨bound, claims | dangles⟩ := side.claimant other isReserved
    · refine ⟨bound, Or.inl (exists_claim_update claims ?_)⟩
      grind
    · contradiction
  case claimed =>
    have claimed := side.claimed
    grind [update_apply]
  case danglingClaimed => exact side.danglingClaimed
  case victimReserved =>
    have victimReserved := side.victimReserved
    grind [update_apply]
  case reservedHeld =>
    have reservedHeld := side.reservedHeld
    grind [update_apply]
  case free =>
    refine side.free.push ?_ ?_
    · simp [held]
    · grind [update_apply]

section

variable
    (side : VramSide total capacity slots reserved (slot :: free) place none)

include side

theorem VramSide.load
    (inside : gid < total)
    (cold : place gid = .cold) :
    VramSide total capacity (Function.update slots slot (some gid)) reserved
      free (Function.update place gid (.hot slot)) none := by
  obtain ⟨bound, empty, unreserved⟩ :=
    (side.free.mem_iff slot).mp List.mem_cons_self
  constructor
  case owner =>
    have owner := side.owner
    grind [update_apply]
  case owned =>
    have owned := side.owned
    grind [update_apply]
  case claimant =>
    intro other isReserved
    obtain ⟨otherBound, claims | dangles⟩ := side.claimant other isReserved
    · refine ⟨otherBound, Or.inl (exists_claim_update claims ?_)⟩
      simp [cold]
    · contradiction
  case claimed =>
    have claimed := side.claimed
    grind [update_apply]
  case danglingClaimed => simp
  case victimReserved =>
    have victimReserved := side.victimReserved
    grind [update_apply]
  case reservedHeld =>
    have reservedHeld := side.reservedHeld
    have owner := side.owner
    grind [update_apply]
  case free =>
    refine side.free.pop ?_
    grind [update_apply]

theorem VramSide.reserve
    (nonzero : operationId ≠ 0) :
    VramSide total capacity slots
      (Function.update reserved slot operationId) free place
      (some (operationId, slot)) := by
  obtain ⟨bound, empty, unreserved⟩ :=
    (side.free.mem_iff slot).mp List.mem_cons_self
  constructor
  case owner => exact side.owner
  case owned => exact side.owned
  case claimant =>
    have claimant := side.claimant
    grind [update_apply]
  case claimed =>
    have claimed := side.claimed
    grind [update_apply]
  case danglingClaimed => grind [update_apply]
  case victimReserved =>
    have victimReserved := side.victimReserved
    have owned := side.owned
    grind [update_apply]
  case reservedHeld =>
    have reservedHeld := side.reservedHeld
    grind [update_apply]
  case free =>
    refine side.free.pop ?_
    grind [update_apply]

end

theorem VramSide.mark
    (side : VramSide total capacity slots reserved free place none)
    (inside : gid < total)
    (hot : place gid = .hot slot)
    (nonzero : operationId ≠ 0) :
    VramSide total capacity slots
      (Function.update reserved slot operationId) free
      (Function.update place gid (.demoting operationId slot none))
      (some (operationId, slot)) := by
  have held := side.owned gid slot inside (by simp [hot])
  have bound := (side.owner slot gid held).2.1
  have unreserved : reserved slot = 0 := by
    by_contra isReserved
    have evicted := side.reservedHeld slot gid isReserved held
    simp [hot] at evicted
  constructor
  case owner =>
    have owner := side.owner
    grind [update_apply]
  case owned =>
    have owned := side.owned
    grind [update_apply]
  case claimant =>
    intro other isReserved
    rw [update_apply] at isReserved ⊢
    by_cases same : other = slot
    · simp [same, bound]
    · simp only [same, if_false] at isReserved ⊢
      obtain ⟨bound, claims | dangles⟩ := side.claimant other isReserved
      · refine ⟨bound, Or.inl (exists_claim_update claims ?_)⟩
        simp [hot]
      · contradiction
  case claimed =>
    have claimed := side.claimed
    grind [update_apply]
  case danglingClaimed => grind [update_apply]
  case victimReserved =>
    have victimReserved := side.victimReserved
    have owned := side.owned
    grind [update_apply]
  case reservedHeld =>
    have reservedHeld := side.reservedHeld
    grind [update_apply]
  case free =>
    refine side.free.congr ?_
    grind [update_apply]

/-- The incoming expert takes up the dangling reservation. -/
theorem VramSide.claim
    (side :
      VramSide total capacity slots reserved free place
        (some (operationId, slot)))
    (inside : gid < total)
    (noSlot : (place gid).vramSlot = none)
    (noClaim : (place gid).vramClaim = none)
    (noSlotNext : next.vramSlot = none)
    (claims : next.vramClaim = some (operationId, slot)) :
    VramSide total capacity slots reserved free
      (Function.update place gid next) none := by
  have dangles := side.danglingClaimed operationId slot rfl
  constructor
  case owner =>
    have owner := side.owner
    grind [update_apply]
  case owned =>
    have owned := side.owned
    grind [update_apply]
  case claimant =>
    intro other isReserved
    obtain ⟨bound, others | danglesHere⟩ := side.claimant other isReserved
    · refine ⟨bound, Or.inl (exists_claim_update others ?_)⟩
      rw [noClaim]
      simp
    · refine ⟨bound, Or.inl ⟨gid, inside, ?_⟩⟩
      rw [update_self, claims]
      exact danglesHere
  case claimed =>
    have claimed := side.claimed
    grind [update_apply]
  case danglingClaimed => simp
  case victimReserved =>
    have victimReserved := side.victimReserved
    grind [update_apply]
  case reservedHeld =>
    have reservedHeld := side.reservedHeld
    have owner := side.owner
    grind [update_apply]
  case free => exact side.free

/-- No other expert is brought in by this one's operation. -/
def OnlyIncoming
    (total : Nat)
    (place : Nat → Residency)
    (gid operationId : Nat) : Prop :=
  ∀ other, other < total →
    (place other).incoming = some operationId → other = gid

section

variable
    (side : VramSide total capacity slots reserved free place none)
    (inside : gid < total)
    (only : OnlyIncoming total place gid operationId)
    (claims : (place gid).vramClaim = some (operationId, slot))
    (empty : slots slot = none)

include side inside only claims empty

theorem VramSide.fill
    (holds : next.vramSlot = some slot)
    (notVictim : next.victim = none) :
    VramSide total capacity (Function.update slots slot (some gid))
      (Function.update reserved slot 0) free
      (Function.update place gid next) none := by
  obtain ⟨isReserved, nonzero⟩ :=
    side.claimed gid operationId slot inside claims
  have bound := (side.claimant slot (by omega)).1
  constructor
  case owner =>
    have owner := side.owner
    grind [update_apply]
  case owned =>
    have owned := side.owned
    grind [update_apply]
  case claimant =>
    intro other isReservedThere
    rw [update_apply] at isReservedThere ⊢
    by_cases same : other = slot
    · simp [same] at isReservedThere
    · simp only [same, if_false] at isReservedThere ⊢
      obtain ⟨otherBound, others | dangles⟩ :=
        side.claimant other isReservedThere
      · refine ⟨otherBound, Or.inl (exists_claim_update others ?_)⟩
        grind
      · contradiction
  case claimed =>
    have claimed := side.claimed
    unfold OnlyIncoming at only
    grind [update_apply]
  case danglingClaimed => simp
  case victimReserved =>
    have victimReserved := side.victimReserved
    have owned := side.owned
    grind [update_apply]
  case reservedHeld =>
    have reservedHeld := side.reservedHeld
    have owner := side.owner
    grind [update_apply]
  case free =>
    refine side.free.congr ?_
    grind [update_apply]

theorem VramSide.cancel
    (noSlot : next.vramSlot = none)
    (unclaimed : next.vramClaim = none) :
    VramSide total capacity slots (Function.update reserved slot 0)
      (slot :: free) (Function.update place gid next) none := by
  obtain ⟨isReserved, nonzero⟩ :=
    side.claimed gid operationId slot inside claims
  have bound := (side.claimant slot (by omega)).1
  constructor
  case owner =>
    have owner := side.owner
    grind [update_apply]
  case owned =>
    have owned := side.owned
    grind [update_apply]
  case claimant =>
    intro other isReservedThere
    rw [update_apply] at isReservedThere ⊢
    by_cases same : other = slot
    · simp [same] at isReservedThere
    · simp only [same, if_false] at isReservedThere ⊢
      obtain ⟨otherBound, others | dangles⟩ :=
        side.claimant other isReservedThere
      · refine ⟨otherBound, Or.inl (exists_claim_update others ?_)⟩
        grind
      · contradiction
  case claimed =>
    have claimed := side.claimed
    unfold OnlyIncoming at only
    grind [update_apply]
  case danglingClaimed => simp
  case victimReserved =>
    have victimReserved := side.victimReserved
    have owned := side.owned
    grind [update_apply]
  case reservedHeld =>
    have reservedHeld := side.reservedHeld
    have owner := side.owner
    grind [update_apply]
  case free =>
    refine side.free.push ?_ ?_
    · simp [isReserved, nonzero]
    · grind [update_apply]

end

theorem VramSide.vacate
    (side : VramSide total capacity slots reserved free place dangling)
    (inside : gid < total)
    (evicted : (place gid).victim = some (operationId, slot))
    (nonzero : operationId ≠ 0)
    (noSlot : next.vramSlot = none)
    (unclaimed : next.vramClaim = none) :
    VramSide total capacity (Function.update slots slot none) reserved free
      (Function.update place gid next) dangling := by
  have isReserved :=
    side.victimReserved gid operationId slot inside evicted
  have here := (Residency.vramSlot_of_victim evicted).1
  have held := side.owned gid slot inside here
  constructor
  case owner =>
    have owner := side.owner
    grind [update_apply]
  case owned =>
    have owned := side.owned
    grind [update_apply]
  case claimant =>
    intro other isReservedThere
    obtain ⟨otherBound, others | dangles⟩ :=
      side.claimant other isReservedThere
    · refine ⟨otherBound, Or.inl (exists_claim_update others ?_)⟩
      grind
    · exact ⟨otherBound, Or.inr dangles⟩
  case claimed =>
    have claimed := side.claimed
    grind [update_apply]
  case danglingClaimed => exact side.danglingClaimed
  case victimReserved =>
    have victimReserved := side.victimReserved
    grind [update_apply]
  case reservedHeld =>
    have reservedHeld := side.reservedHeld
    have owner := side.owner
    grind [update_apply]
  case free =>
    refine side.free.congr ?_
    grind [update_apply]

end Vram

/-! ## Host memory -/

section Host

variable
    {usable host : Nat}
    {slots : Nat → Option Nat}
    {reserved : Nat → Nat}
    {free : List Nat}

theorem HostSide.move
    (side : HostSide total usable slots reserved free place)
    (slotKept : next.hostSlot = (place gid).hostSlot)
    (claimKept : next.hostClaim = (place gid).hostClaim)
    (destinationKept : next.destination = (place gid).destination) :
    HostSide total usable slots reserved free
      (Function.update place gid next) := by
  constructor
  case owner =>
    have owner := side.owner
    grind [update_apply]
  case owned =>
    have owned := side.owned
    grind [update_apply]
  case claimant =>
    intro other isReserved
    obtain ⟨id, inside, claims⟩ := side.claimant other isReserved
    refine ⟨id, inside, ?_⟩
    grind [update_apply]
  case claimed =>
    have claimed := side.claimed
    grind [update_apply]
  case destinationEmpty =>
    have destinationEmpty := side.destinationEmpty
    grind [update_apply]
  case free => exact side.free

theorem HostSide.claimant_cleared
    (side : HostSide total usable slots reserved free place)
    (own : ∀ other operation, (place gid).hostClaim = some (operation, other) →
      other = host) :
    ∀ other, Function.update reserved host 0 other ≠ 0 →
      ∃ id, id < total ∧ (Function.update place gid next id).hostClaim =
        some (Function.update reserved host 0 other, other) := by
  intro other isReserved
  by_cases same : other = host
  · simp [same] at isReserved
  · rw [update_of_ne same] at isReserved ⊢
    exact exists_claim_update (side.claimant other isReserved)
      fun claims => same (own _ _ claims)

theorem HostSide.load
    (side : HostSide total usable slots reserved (host :: free) place)
    (inside : gid < total)
    (cold : place gid = .cold) :
    HostSide total usable (Function.update slots host (some gid)) reserved
      free (Function.update place gid (.warm host none)) := by
  obtain ⟨bound, empty, unreserved⟩ :=
    (side.free.mem_iff host).mp List.mem_cons_self
  constructor
  case owner =>
    have owner := side.owner
    grind [update_apply]
  case owned =>
    have owned := side.owned
    grind [update_apply]
  case claimant =>
    intro other isReserved
    refine exists_claim_update (side.claimant other isReserved) ?_
    simp [cold]
  case claimed =>
    have claimed := side.claimed
    grind [update_apply]
  case destinationEmpty =>
    have destinationEmpty := side.destinationEmpty
    have claimed := side.claimed
    grind [update_apply]
  case free =>
    refine side.free.pop ?_
    grind [update_apply]

theorem HostSide.grow
    {larger : Nat}
    {added : List Nat}
    (side : HostSide total usable slots reserved free place)
    (above : usable ≤ larger)
    (unique : added.Nodup)
    (range : ∀ other, other ∈ added ↔ usable ≤ other ∧ other < larger)
    (unused :
      ∀ other ∈ added, slots other = none ∧ reserved other = 0) :
    HostSide total larger slots reserved (added ++ free) place := by
  constructor
  case owner =>
    have owner := side.owner
    grind
  case owned => exact side.owned
  case claimant => exact side.claimant
  case claimed => exact side.claimed
  case destinationEmpty =>
    have destinationEmpty := side.destinationEmpty
    grind
  case free =>
    refine side.free.append unique ?_ ?_
    · grind
    · grind

theorem HostSide.shrink
    {smaller : Nat}
    {rebuilt : List Nat}
    (side : HostSide total usable slots reserved free place)
    (unused :
      ∀ other, smaller ≤ other → other < usable →
        slots other = none ∧ reserved other = 0)
    (exactly : Exactly rebuilt fun other =>
      other < smaller ∧ slots other = none ∧ reserved other = 0) :
    HostSide total smaller slots reserved rebuilt place := by
  constructor
  case owner =>
    have owner := side.owner
    grind
  case owned => exact side.owned
  case claimant => exact side.claimant
  case claimed => exact side.claimed
  case destinationEmpty =>
    have destinationEmpty := side.destinationEmpty
    have claimed := side.claimed
    grind
  case free => exact exactly

theorem HostSide.release
    (side : HostSide total usable slots reserved free place)
    (inside : gid < total)
    (warm : place gid = .warm host none) :
    HostSide total usable (Function.update slots host none) reserved
      (host :: free) (Function.update place gid .cold) := by
  have held := side.owned gid host inside (by simp [warm])
  have bound := (side.owner host gid held).2.1
  have unreserved : reserved host = 0 := by
    by_contra isReserved
    obtain ⟨other, otherInside, claims⟩ := side.claimant host isReserved
    obtain ⟨_, here | copies⟩ := Residency.operation_of_hostClaim claims
    · have sameSlot := side.owned other host otherInside here
      rw [held] at sameSlot
      obtain rfl := Option.some.inj sameSlot
      simp [warm] at claims
    · have empty := (side.destinationEmpty other host otherInside copies).1
      rw [held] at empty
      contradiction
  constructor
  case owner =>
    have owner := side.owner
    grind [update_apply]
  case owned =>
    have owned := side.owned
    grind [update_apply]
  case claimant =>
    intro other isReserved
    refine exists_claim_update (side.claimant other isReserved) ?_
    simp [warm]
  case claimed =>
    have claimed := side.claimed
    grind [update_apply]
  case destinationEmpty =>
    have destinationEmpty := side.destinationEmpty
    grind [update_apply]
  case free =>
    refine side.free.push ?_ ?_
    · simp [held]
    · grind [update_apply]

theorem HostSide.copyInto
    (side : HostSide total usable slots reserved (host :: free) place)
    (inside : gid < total)
    (evicted : place gid = .demoting operationId slot none)
    (nonzero : operationId ≠ 0) :
    HostSide total usable slots (Function.update reserved host operationId)
      free
      (Function.update place gid (.demoting operationId slot (some host))) := by
  obtain ⟨bound, empty, unreserved⟩ :=
    (side.free.mem_iff host).mp List.mem_cons_self
  constructor
  case owner =>
    have owner := side.owner
    grind [update_apply]
  case owned =>
    have owned := side.owned
    grind [update_apply]
  case claimant =>
    intro other isReserved
    rw [update_apply] at isReserved ⊢
    by_cases same : other = host
    · refine ⟨gid, inside, ?_⟩
      simp [same]
    · simp only [same, if_false] at isReserved ⊢
      refine exists_claim_update (side.claimant other isReserved) ?_
      simp [evicted]
  case claimed =>
    have claimed := side.claimed
    grind [update_apply]
  case destinationEmpty =>
    have destinationEmpty := side.destinationEmpty
    grind [update_apply]
  case free =>
    refine side.free.pop ?_
    grind [update_apply]

section

variable
    {target : Nat}
    (side : HostSide total usable slots reserved free place)
    (inside : gid < total)

include side inside

theorem HostSide.keep
    (warm : place gid = .warm host none)
    (nonzero : operationId ≠ 0) :
    HostSide total usable slots (Function.update reserved host operationId)
      free
      (Function.update place gid (.promoting operationId host target)) := by
  have held := side.owned gid host inside (by simp [warm])
  have bound := (side.owner host gid held).2.1
  constructor
  case owner =>
    have owner := side.owner
    grind [update_apply]
  case owned =>
    have owned := side.owned
    grind [update_apply]
  case claimant =>
    intro other isReserved
    rw [update_apply] at isReserved ⊢
    by_cases same : other = host
    · refine ⟨gid, inside, ?_⟩
      simp [same]
    · simp only [same, if_false] at isReserved ⊢
      refine exists_claim_update (side.claimant other isReserved) ?_
      simp [warm]
  case claimed =>
    have claimed := side.claimed
    have owned := side.owned
    have destinationEmpty := side.destinationEmpty
    grind [update_apply]
  case destinationEmpty =>
    have destinationEmpty := side.destinationEmpty
    grind [update_apply]
  case free =>
    refine side.free.congr ?_
    grind [update_apply]

/-- A failed promotion keeps its Warm source. -/
theorem HostSide.unkeep
    (promoted : place gid = .promoting operationId host target) :
    HostSide total usable slots (Function.update reserved host 0) free
      (Function.update place gid (.warm host none)) := by
  have held := side.owned gid host inside (by simp [promoted])
  constructor
  case owner =>
    have owner := side.owner
    grind [update_apply]
  case owned =>
    have owned := side.owned
    grind [update_apply]
  case claimant => exact side.claimant_cleared (by grind)
  case claimed =>
    have claimed := side.claimed
    have owned := side.owned
    have destinationEmpty := side.destinationEmpty
    grind [update_apply]
  case destinationEmpty =>
    have destinationEmpty := side.destinationEmpty
    grind [update_apply]
  case free =>
    refine side.free.congr ?_
    grind [update_apply]

/-- A finished promotion gives up its Warm source. -/
theorem HostSide.leave
    (promoted : place gid = .promoting operationId host target) :
    HostSide total usable (Function.update slots host none)
      (Function.update reserved host 0) (host :: free)
      (Function.update place gid (.hot slot)) := by
  have held := side.owned gid host inside (by simp [promoted])
  have bound := (side.owner host gid held).2.1
  constructor
  case owner =>
    have owner := side.owner
    grind [update_apply]
  case owned =>
    have owned := side.owned
    grind [update_apply]
  case claimant => exact side.claimant_cleared (by grind)
  case claimed =>
    have claimed := side.claimed
    have owned := side.owned
    have destinationEmpty := side.destinationEmpty
    grind [update_apply]
  case destinationEmpty =>
    have destinationEmpty := side.destinationEmpty
    grind [update_apply]
  case free =>
    refine side.free.push ?_ ?_
    · simp [held]
    · grind [update_apply]

end

/-- No other expert is evicted by this one's operation. -/
def OnlyVictim
    (total : Nat)
    (place : Nat → Residency)
    (gid operationId : Nat) : Prop :=
  ∀ other source, other < total →
    (place other).victim = some (operationId, source) → other = gid

section

variable
    (side : HostSide total usable slots reserved free place)
    (inside : gid < total)
    (only : OnlyVictim total place gid operationId)
    (evicted : place gid = .demoting operationId slot (some host))

include side inside only evicted

/-- A demoted victim's bytes arrive in its destination. -/
theorem HostSide.land :
    HostSide total usable (Function.update slots host (some gid))
      (Function.update reserved host 0) free
      (Function.update place gid (.warm host none)) := by
  obtain ⟨empty, bound⟩ :=
    side.destinationEmpty gid host inside (by simp [evicted])
  obtain ⟨isReserved, nonzero⟩ :=
    side.claimed gid operationId host inside (by simp [evicted])
  unfold OnlyVictim at only
  constructor
  case owner =>
    have owner := side.owner
    grind [update_apply]
  case owned =>
    have owned := side.owned
    grind [update_apply]
  case claimant => exact side.claimant_cleared (by grind)
  case claimed =>
    have claimed := side.claimed
    have owned := side.owned
    grind [update_apply]
  case destinationEmpty =>
    have destinationEmpty := side.destinationEmpty
    have claimed := side.claimed
    grind [update_apply]
  case free =>
    refine side.free.congr ?_
    grind [update_apply]

/-- A failed demotion gives its destination back. -/
theorem HostSide.abandon :
    HostSide total usable (Function.update slots host none)
      (Function.update reserved host 0) (host :: free)
      (Function.update place gid .cold) := by
  obtain ⟨empty, bound⟩ :=
    side.destinationEmpty gid host inside (by simp [evicted])
  obtain ⟨isReserved, nonzero⟩ :=
    side.claimed gid operationId host inside (by simp [evicted])
  unfold OnlyVictim at only
  constructor
  case owner =>
    have owner := side.owner
    grind [update_apply]
  case owned =>
    have owned := side.owned
    grind [update_apply]
  case claimant => exact side.claimant_cleared (by grind)
  case claimed =>
    have claimed := side.claimed
    have owned := side.owned
    grind [update_apply]
  case destinationEmpty =>
    have destinationEmpty := side.destinationEmpty
    grind [update_apply]
  case free =>
    refine side.free.push ?_ ?_
    · simp [isReserved, nonzero]
    · grind [update_apply]

end

end Host

/-! ## Operations -/

section Operations

variable {nextOperationId : Nat}

section

variable
    (side : OperationSide total nextOperationId place)

include side

theorem OperationSide.move
    (incomingKept : next.incoming = (place gid).incoming)
    (victimKept : next.victim = (place gid).victim)
    (copyKept : next.isShadowing = (place gid).isShadowing) :
    OperationSide total nextOperationId (Function.update place gid next) := by
  constructor
  case incomingUnique =>
    have incomingUnique := side.incomingUnique
    grind [update_apply]
  case victimUnique =>
    have victimUnique := side.victimUnique
    grind [update_apply]
  case numbered =>
    have numbered := side.numbered
    grind [update_apply, Residency.operation_eq]
  case copiesAlone =>
    have copiesAlone := side.copiesAlone
    grind [update_apply]
  case positive => exact side.positive

/-- An expert's operation is over. -/
theorem OperationSide.finish
    (idle : next.operation = none) :
    OperationSide total nextOperationId (Function.update place gid next) := by
  have notIncoming : next.incoming = none := by
    cases next <;> simp_all
  have notVictim : next.victim = none := by
    cases next <;> simp_all
  constructor
  case incomingUnique =>
    have incomingUnique := side.incomingUnique
    grind [update_apply]
  case victimUnique =>
    have victimUnique := side.victimUnique
    grind [update_apply]
  case numbered =>
    have numbered := side.numbered
    grind [update_apply]
  case copiesAlone =>
    have copiesAlone := side.copiesAlone
    grind [update_apply]
  case positive => exact side.positive

/-- An operation starts to bring an expert in. -/
theorem OperationSide.request
    (nonzero : operationId ≠ 0)
    (issued : operationId < nextOperationId)
    (fresh :
      ∀ other, other < total → (place other).incoming ≠ some operationId)
    (incoming : next.incoming = some operationId)
    (alone :
      next.isShadowing = true →
        ∀ other source, other < total →
          (place other).victim ≠ some (operationId, source)) :
    OperationSide total nextOperationId (Function.update place gid next) := by
  obtain ⟨operates, _, notVictim⟩ := Residency.operation_of_incoming incoming
  constructor
  case incomingUnique =>
    have incomingUnique := side.incomingUnique
    grind [update_apply]
  case victimUnique =>
    have victimUnique := side.victimUnique
    grind [update_apply]
  case numbered =>
    have numbered := side.numbered
    grind [update_apply]
  case copiesAlone =>
    have copiesAlone := side.copiesAlone
    grind [update_apply]
  case positive => exact side.positive

theorem OperationSide.evict
    (nonzero : operationId ≠ 0)
    (issued : operationId < nextOperationId)
    (fresh : OnlyVictim total place gid operationId)
    (evicted : next.victim = some (operationId, slot))
    (notCopying :
      ∀ other, other < total → (place other).isShadowing = false) :
    OperationSide total nextOperationId (Function.update place gid next) := by
  obtain ⟨_, operates, notIncoming⟩ := Residency.vramSlot_of_victim evicted
  unfold OnlyVictim at fresh
  constructor
  case incomingUnique =>
    have incomingUnique := side.incomingUnique
    grind [update_apply]
  case victimUnique =>
    have victimUnique := side.victimUnique
    grind [update_apply]
  case numbered =>
    have numbered := side.numbered
    grind [update_apply]
  case copiesAlone =>
    grind [update_apply]
  case positive => exact side.positive

theorem OperationSide.issue :
    OperationSide total (nextOperationId + 1) place := by
  refine { side with numbered := ?_, positive := by omega }
  intro id operation inside operates
  obtain ⟨nonzero, bounded⟩ := side.numbered id operation inside operates
  exact ⟨nonzero, by omega⟩

theorem OperationSide.fresh
    {other : Nat}
    (inside : other < total) :
    (place other).operation ≠ some nextOperationId := by
  intro operates
  have bounded := (side.numbered other nextOperationId inside operates).2
  omega

end

end Operations

/-! ## Recency lists -/

section Ranks

variable
    {ranked : List Nat}
    {flag : Residency → Bool}

section

variable
    (side : Exactly ranked fun other =>
      other < total ∧ flag (place other) = true)

include side

theorem rank_keep
    (kept : flag next = flag (place gid)) :
    Exactly ranked fun other =>
      other < total ∧ flag (Function.update place gid next other) = true := by
  refine side.congr ?_
  grind [update_apply]

/-- A move into a rank, at its front. -/
theorem rank_add
    (inside : gid < total)
    (was : flag (place gid) = false)
    (is : flag next = true) :
    Exactly (gid :: ranked) fun other =>
      other < total ∧ flag (Function.update place gid next other) = true := by
  refine side.push ?_ ?_
  · simp [was]
  · grind [update_apply]

end

theorem RankSide.keep
    {hotVramLru warmHostLru shadowLru : List Nat}
    (side : RankSide total hotVramLru warmHostLru shadowLru place)
    (hotKept : next.isHot = (place gid).isHot)
    (warmKept : next.isWarm = (place gid).isWarm)
    (shadowKept : next.isShadowed = (place gid).isShadowed) :
    RankSide total hotVramLru warmHostLru shadowLru
      (Function.update place gid next) :=
  ⟨rank_keep side.hot hotKept, rank_keep side.warm warmKept,
    rank_keep side.shadow shadowKept⟩

/-- The predicate a move out of a rank leaves. -/
theorem rank_drop_iff
    (is : flag next = false) :
    ∀ other,
      (other < total ∧ flag (Function.update place gid next other) = true) ↔
        (other < total ∧ flag (place other) = true) ∧ other ≠ gid := by
  grind [update_apply]

end Ranks

/-! ## Catalog -/

theorem CatalogSide.update
    {warmFrozen prefillStream : Bool}
    {catalog : Nat → CatalogEntry}
    {entry : CatalogEntry}
    (side : CatalogSide total warmFrozen prefillStream catalog place)
    (fit : gid < total → Fits next entry)
    (admitted : next.admitted warmFrozen prefillStream = true) :
    CatalogSide total warmFrozen prefillStream
      (Function.update catalog gid entry) (Function.update place gid next) := by
  constructor
  case fits =>
    intro other inside
    by_cases same : other = gid
    · subst same
      rw [update_self, update_self]
      exact fit inside
    · rw [update_of_ne same, update_of_ne same]
      exact side.fits other inside
  case admitted =>
    intro other inside
    by_cases same : other = gid
    · subst same
      rw [update_self]
      exact admitted
    · rw [update_of_ne same]
      exact side.admitted other inside

/-! ## Marks -/

section Marks

variable
    {prefillStream : Bool}
    {catalog : Nat → CatalogEntry}
    {entry : CatalogEntry}
    {mirror : Nat → Option Nat}

theorem MarkSide.replace
    {shadow : Option Nat}
    (side : MarkSide total prefillStream catalog mirror place)
    (marksKept :
      entry.residentAtPrefillBegin = true →
        (catalog gid).residentAtPrefillBegin = true ∧
          ((place gid).isHot = true → next.isHot = true))
    (shadowEq : next.shadow = shadow) :
    MarkSide total prefillStream (Function.update catalog gid entry)
      (Function.update mirror gid shadow) (Function.update place gid next) := by
  constructor
  case marked =>
    have marked := side.marked
    grind [update_apply]
  case mirrored =>
    have mirrored := side.mirrored
    grind [update_apply]

theorem MarkSide.update
    (side : MarkSide total prefillStream catalog mirror place)
    (marksKept :
      entry.residentAtPrefillBegin = true →
        (catalog gid).residentAtPrefillBegin = true ∧
          ((place gid).isHot = true → next.isHot = true))
    (shadowKept : next.shadow = (place gid).shadow) :
    MarkSide total prefillStream (Function.update catalog gid entry) mirror
      (Function.update place gid next) := by
  constructor
  case marked =>
    have marked := side.marked
    grind [update_apply]
  case mirrored =>
    have mirrored := side.mirrored
    grind [update_apply]

end Marks

end Aeon.Registry
