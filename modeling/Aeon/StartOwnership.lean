import Aeon.ReaperOwnership

namespace Aeon.Transport

open Aeon.Registry
open Call (Ensures Finished bind_apply catching check_apply write_apply)

/-!
# Starting a transfer and the ownership of slots

A reserved request opens a record, may send its victim's bytes home through the
arena, and takes the slot it was given.  The slot is nobody's when the request
starts, and so is the one a demotion borrows; under that condition every exit of
`schedule_demotion` and of the branches that move the bytes leaves the slots owned.
-/

variable
    {allowed : Reads → Prop}
    {filling : Filling}
    {setup : SupplySetup}
    {operationId slot : Nat}

/-! ## Opening a record -/

/-- A record that nothing has been written to. -/
structure Blank (transfer : PendingTransfer) : Prop where
  unstaged : transfer.hasStaging = false
  unrouted : transfer.demotionUsesStaging = false

theorem Blank.stagingSlots
    {transfer : PendingTransfer}
    (blank : Blank transfer) :
    transfer.stagingSlots = [] := by
  simp [PendingTransfer.stagingSlots, blank.unstaged, blank.unrouted]

/-- Opened, with the operation's record in the table. -/
structure Entered
    (setup : SupplySetup)
    (allowed : Reads → Prop)
    (filling : Filling)
    (operationId slot : Nat)
    (supply : Supply) : Prop where
  opened : Opened setup allowed filling operationId slot supply
  present : ∃ transfer, supply.find operationId = some transfer

namespace Opened

variable {supply : Supply}

section

variable
    (opened : Opened setup allowed filling operationId slot supply)

include opened

theorem ensure_fresh
    (absent : supply.find operationId = none)
    (gid : Nat) :
    Opened setup allowed filling operationId slot
        (supply.ensure operationId gid) ∧
      (supply.ensure operationId gid).named = supply.named ∧
      ∃ transfer,
        (supply.ensure operationId gid).find operationId = some transfer ∧
          Blank transfer := by
  have owned := opened.steady.owned
  let record : PendingTransfer :=
    { operationId := operationId
      globalExpertId := gid
      sourceTier := (supply.registry.catalog gid).owner }
  have grown :
      supply.ensure operationId gid =
        { supply with transfers := supply.transfers ++ [record] } := by
    simp only [Supply.ensure, absent, Option.isSome_none, Bool.false_eq_true,
      if_false]
    rfl
  have named :
      ({ supply with
          transfers := supply.transfers ++ [record] } : Supply).named =
        supply.named := by
    simp only [Supply.named, List.flatMap_append, List.flatMap_cons,
      List.flatMap_nil, List.append_nil]
    exact List.append_nil _
  have found :
      ({ supply with
          transfers := supply.transfers ++ [record] } : Supply).find
            operationId = some record := by
    unfold Supply.find at absent ⊢
    simp only
    rw [List.find?_append, absent, Option.none_or]
    simp [record]
  rw [grown]
  refine ⟨⟨⟨?_, opened.steady.framed, fun filled listed => ?_,
    opened.steady.counted⟩, ?_, opened.issued, ?_⟩, named, record, found, rfl,
      rfl⟩
  · constructor
    · intro transfer listed
      rcases List.mem_append.mp listed with before | here
      · exact owned.issued transfer before
      · rw [List.mem_singleton.mp here]
        exact opened.issued
    · simp only [List.map_append, List.map_cons, List.map_nil]
      refine List.Nodup.append owned.distinct (List.nodup_singleton _) ?_
      intro number listed same
      rw [List.mem_singleton] at same
      subst same
      obtain ⟨transfer, present, number⟩ := List.mem_map.mp listed
      have missing := List.find?_eq_none.mp absent transfer present
      exact missing (by simpa using number)
    · rw [named]
      exact owned.apart
    · rw [named]
      exact owned.held
    · exact owned.ranged
    · intro transfer listed
      rcases List.mem_append.mp listed with before | here
      · exact owned.settled transfer before
      · rw [List.mem_singleton.mp here]
        exact ⟨by simp, by simp, by simp, rfl⟩
    · exact owned.kept
  · obtain ⟨pending, owner, present, own⟩ := opened.steady.fills filled listed
    exact ⟨pending, owner, List.mem_append_left _ present, own⟩
  · rw [named]
    exact opened.unnamed
  · intro transfer present
    rw [found] at present
    cases present
    exact ⟨rfl, rfl, rfl⟩

theorem ensure
    (gid : Nat) :
    Entered setup allowed filling operationId slot
      (supply.ensure operationId gid) := by
  cases present : supply.find operationId with
  | none =>
    obtain ⟨grown, -, transfer, found, -⟩ :=
      opened.ensure_fresh present gid
    exact ⟨grown, transfer, found⟩
  | some transfer =>
    have same : supply.ensure operationId gid = supply := by
      simp [Supply.ensure, present]
    rw [same]
    exact ⟨opened, transfer, present⟩

/-- A write to the record that takes no slot. -/
theorem update
    {transfer : PendingTransfer}
    (found : supply.find operationId = some transfer)
    {change : PendingTransfer → PendingTransfer}
    (same : (change transfer).operationId = transfer.operationId)
    (names : (change transfer).stagingSlots = transfer.stagingSlots)
    (flags :
      (change transfer).hasStaging = transfer.hasStaging ∧
        (change transfer).requestFailed = transfer.requestFailed ∧
        (change transfer).h2dSubmitted = transfer.h2dSubmitted)
    (settled : Settled supply.slots (change transfer)) :
    Opened setup allowed filling operationId slot
      (supply.update operationId change) := by
  have own := (Supply.mem_of_find found).2
  have fresh := opened.fresh transfer found
  refine ⟨opened.steady.update found same names settled, ?_, opened.issued,
    ?_⟩
  · rw [Supply.named_update found same names]
    exact opened.unnamed
  · intro record present
    rw [Supply.find_update found (same.trans own)] at present
    cases present
    rw [flags.1, flags.2.1, flags.2.2]
    exact fresh

theorem onRegistry
    {registry : ExpertRegistry}
    (grows :
      supply.registry.nextOperationId ≤ registry.nextOperationId) :
    Opened setup allowed filling operationId slot
      { supply with registry := registry } :=
  ⟨opened.steady.onRegistry grows, opened.unnamed,
    Nat.lt_of_lt_of_le opened.issued grows, opened.fresh⟩

end

end Opened

namespace Entered

variable {supply : Supply}

section

variable
    (entered : Entered setup allowed filling operationId slot supply)

include entered

theorem stopped :
    Stopped setup (onReads allowed) filling operationId supply :=
  entered.opened.stopped

theorem onRegistry
    {registry : ExpertRegistry}
    (grows :
      supply.registry.nextOperationId ≤ registry.nextOperationId) :
    Entered setup allowed filling operationId slot
      { supply with registry := registry } :=
  ⟨entered.opened.onRegistry grows, entered.present⟩

/-- A write to the record that takes no slot. -/
theorem update
    {change : PendingTransfer → PendingTransfer}
    (same :
      ∀ transfer,
        (change transfer).operationId = transfer.operationId ∧
          (change transfer).stagingSlots = transfer.stagingSlots ∧
          (change transfer).hasStaging = transfer.hasStaging ∧
          (change transfer).requestFailed = transfer.requestFailed ∧
          (change transfer).h2dSubmitted = transfer.h2dSubmitted)
    (settles :
      ∀ transfer,
        supply.find operationId = some transfer →
          Settled supply.slots (change transfer)) :
    Entered setup allowed filling operationId slot
      (supply.update operationId change) := by
  obtain ⟨transfer, found⟩ := entered.present
  obtain ⟨own, names, flags⟩ := same transfer
  refine ⟨entered.opened.update found own names flags
    (settles transfer found), change transfer, ?_⟩
  exact Supply.find_update found (own.trans (Supply.mem_of_find found).2)

end

end Entered

/-! ## Demotions -/

section Demotion

theorem createDemotionEvent_entered :
    Ensures (Entered setup allowed filling operationId slot)
      (createDemotionEvent operationId)
      (fun _ => Entered setup allowed filling operationId slot)
      (Entered setup allowed filling operationId slot) := by
  refine .andThen (.leaves (submit_leaves _) fun _ entered => entered)
    fun _ => .write fun supply entered => ?_
  refine entered.update (fun _ => ⟨rfl, rfl, rfl, rfl, rfl⟩) ?_
  intro transfer found
  have settled := entered.opened.steady.settled found
  refine ⟨settled.failed, settled.submitted, ?_, settled.routed⟩
  intro uses target named
  rcases settled.demoted uses target named with free | ⟨-, copying⟩
  · exact Or.inl free
  · exact Or.inr ⟨rfl, copying⟩

/-- The copy of a demotion whose event exists. -/
theorem sendDemotion_entered
    (sourceSlot : Nat) :
    Ensures (Entered setup allowed filling operationId slot)
      (sendDemotion setup operationId sourceSlot)
      (fun _ => Entered setup allowed filling operationId slot)
      (Entered setup allowed filling operationId slot) := by
  refine .andThen (.check fun _ _ entered => entered) fun _ => ?_
  refine .andThen (.leaves (submit_leaves _) fun _ holds => holds.2)
    fun _ => ?_
  refine .andThen (.write ?_) fun _ =>
    .leaves (submit_leaves _) fun _ entered => entered
  rintro supply ⟨-, entered⟩
  refine entered.update (fun _ => ⟨rfl, rfl, rfl, rfl, rfl⟩) ?_
  intro transfer found
  have settled := entered.opened.steady.settled found
  exact ⟨settled.failed, settled.submitted, settled.demoted, settled.routed⟩

theorem releaseUnsentDemotion_entered :
    Ensures (Entered setup allowed filling operationId slot)
      (releaseUnsentDemotion setup operationId)
      (fun _ supply =>
        Entered setup allowed filling operationId slot supply ∧
          ∀ transfer,
            supply.find operationId = some transfer →
              DemotionSpent transfer supply)
      (Entered setup allowed filling operationId slot) := by
  refine .read fun current => ?_
  cases borrowed :
      (current.find operationId).bind PendingTransfer.demotionStagingIdx with
  | none =>
    refine .ret ?_
    rintro supply ⟨entered, rfl⟩
    refine ⟨entered, fun transfer found uses target named => ?_⟩
    rw [found, Option.bind_some, named] at borrowed
    contradiction
  | some target =>
    obtain ⟨record, found, named⟩ := Option.bind_eq_some_iff.mp borrowed
    obtain ⟨listed, own⟩ := Supply.mem_of_find found
    refine releaseAfterFailure_ensures ?_ fun _ _ holds => holds.1
    rintro supply ⟨entered, rfl⟩
    have steady := entered.opened.steady
    have settled := steady.settled found
    have uses : record.demotionUsesStaging = true := by
      rw [settled.routed, named]
      rfl
    have clear : Clear operationId target supply :=
      own ▸ steady.owned.clear_of_mem listed
        (PendingTransfer.mem_stagingSlots.mpr (Or.inr ⟨uses, named⟩))
    have idle : target ∉ filling.slots := by
      refine steady.not_filling ?_
      rcases settled.demoted uses target named with state | ⟨-, state⟩ <;>
        rw [state] <;> decide
    refine ⟨⟨⟨steady.free idle clear, entered.opened.unnamed,
      entered.opened.issued, entered.opened.fresh⟩, entered.present⟩, ?_⟩
    intro transfer present uses' other named'
    have same : supply.find operationId = some transfer := present
    rw [found] at same
    cases same
    rw [named] at named'
    cases named'
    exact Function.update_self _ _ _

/-- The handler of a demotion's copy. -/
theorem abandonDemotion_entered
    {Returned : Unit → Supply → Prop}
    (error : SupplyError) :
    Ensures (Entered setup allowed filling operationId slot)
      (abandonDemotion setup operationId error)
      Returned
      (Entered setup allowed filling operationId slot) := by
  refine .read fun current => .branch (fun _ => ?_) (fun _ => ?_)
  · exact .throwing fun _ holds => holds.1
  · have dropped :
        Ensures
          (fun supply =>
            Entered setup allowed filling operationId slot supply ∧
              supply = current)
          (onRegistry fun registry => registry.dropDemotion operationId)
          (fun _ => Entered setup allowed filling operationId slot)
          (Entered setup allowed filling operationId slot) :=
      (onRegistry_ensures
        (fun registry =>
          Nat.le_of_eq (Frame.refl 0 registry).dropDemotion.nextOperationId.symm)
        fun _ _ grows entered => entered.onRegistry grows).weaken
          (fun _ holds => holds.1) (fun _ _ after => after)
          (fun _ after => after)
    refine .andThen dropped fun _ =>
      .andThen releaseUnsentDemotion_entered fun _ => ?_
    refine .andThen (.write ?_) fun _ => .throwing fun _ entered => entered
    rintro supply ⟨entered, spent⟩
    refine entered.update (fun _ => ⟨rfl, rfl, rfl, rfl, rfl⟩) ?_
    intro transfer found
    have settled := entered.opened.steady.settled found
    exact ⟨settled.failed, settled.submitted,
      fun uses target named => Or.inl (spent transfer found uses target named),
      settled.routed⟩

/-- The record of a demotion that borrows a slot and has its event. -/
def PendingTransfer.borrowing
    (slot : Nat)
    (transfer : PendingTransfer) : PendingTransfer :=
  { transfer with
    demotionStagingIdx := some slot
    demotionUsesStaging := true
    demotionEvent := true }

theorem Entered.borrow
    {supply : Supply}
    (entered : Entered setup allowed filling operationId slot supply)
    {transfer : PendingTransfer}
    (found : supply.find operationId = some transfer)
    (blank : Blank transfer)
    {borrowed : Nat}
    (inRange : borrowed < setup.slotCount)
    (unnamed : borrowed ∉ supply.named)
    (other : borrowed ≠ slot) :
    Entered setup allowed filling operationId slot
      ((supply.update operationId
        (PendingTransfer.borrowing borrowed)).setSlot operationId borrowed
          .gpuTransferPending) := by
  have steady := entered.opened.steady
  have owned := steady.owned
  have free := owned.available_of_unnamed unnamed
  have own := (Supply.mem_of_find found).2
  have settled := steady.settled found
  have fresh := entered.opened.fresh transfer found
  obtain ⟨-, leading, trailing, split, changed⟩ := Supply.find_split found
  have grown :
      (transfer.borrowing borrowed).stagingSlots = [borrowed] := by
    simp [PendingTransfer.stagingSlots, PendingTransfer.borrowing,
      blank.unstaged]
  have foundAfter :
      (supply.update operationId
          (PendingTransfer.borrowing borrowed)).find operationId =
        some (transfer.borrowing borrowed) :=
    Supply.find_update found own
  have named (target : Nat) :
      target ∈ (supply.update operationId
          (PendingTransfer.borrowing borrowed)).named ↔
        target = borrowed ∨ target ∈ supply.named := by
    simp only [Supply.named, changed, split, List.flatMap_append,
      List.flatMap_cons, grown, blank.stagingSlots, List.mem_append,
      List.mem_singleton, List.nil_append]
    tauto
  have routedOwned :
      Owned setup (supply.update operationId
        (PendingTransfer.borrowing borrowed)) := by
    refine owned.replace split (changed _) rfl rfl rfl rfl ?_ ?_
      ⟨fun staged => ?_, fun staged => ?_, ?_, rfl⟩
    · have apart := owned.apart
      have outside := unnamed
      unfold Supply.named at apart outside ⊢
      rw [split, List.flatMap_append, List.flatMap_cons, blank.stagingSlots,
        List.nil_append] at apart outside
      rw [changed, List.flatMap_append, List.flatMap_cons, grown,
        List.singleton_append, List.nodup_middle]
      exact List.nodup_cons.mpr ⟨outside, apart⟩
    · intro target listed
      rw [blank.stagingSlots] at listed
      contradiction
    · simp [PendingTransfer.borrowing, blank.unstaged] at staged
    · simp [PendingTransfer.borrowing, blank.unstaged] at staged
    · rintro - target same
      cases same
      exact Or.inl free
  have listed := (Supply.mem_of_find foundAfter).1
  have names : borrowed ∈ (transfer.borrowing borrowed).stagingSlots := by
    simp [grown]
  have claimed :
      Owned setup ((supply.update operationId
        (PendingTransfer.borrowing borrowed)).setSlot operationId borrowed
          .gpuTransferPending) := by
    refine routedOwned.setSlot ?_ (fun _ => (named borrowed).mpr (Or.inl rfl))
      (fun _ => inRange) ?_
    · exact own ▸ routedOwned.clear_of_mem listed names
    · intro record present same
      obtain rfl : record = transfer.borrowing borrowed :=
        List.inj_on_of_nodup_map routedOwned.distinct present listed
          (same.trans own.symm)
      refine ⟨fun staged => ?_, fun staged => ?_, ?_, rfl⟩
      · simp [PendingTransfer.borrowing, blank.unstaged] at staged
      · simp [PendingTransfer.borrowing, blank.unstaged] at staged
      · rintro - target same
        cases same
        exact Or.inr ⟨rfl, Function.update_self _ _ _⟩
  have idle : borrowed ∉ filling.slots :=
    steady.not_filling (by rw [free]; decide)
  have routed :
      Steady setup (onReads allowed) filling
        (supply.update operationId (PendingTransfer.borrowing borrowed)) :=
    ⟨routedOwned, steady.framed, fun filled listed =>
      (steady.fills filled listed).replace split (changed _) rfl rfl (by
        rw [blank.stagingSlots]
        exact List.nil_subset _), steady.counted⟩
  refine ⟨⟨routed.setSlot idle claimed, ?_, entered.opened.issued, ?_⟩,
    _, foundAfter⟩
  · intro listed
    rcases (named slot).mp listed with same | before
    · exact other same.symm
    · exact entered.opened.unnamed before
  · intro record present
    have same :
        (supply.update operationId
          (PendingTransfer.borrowing borrowed)).find operationId =
            some record := present
    rw [foundAfter] at same
    cases same
    exact fresh

theorem Supply.borrowing_eq
    (supply : Supply)
    (operationId : Nat)
    {borrowed : Nat}
    (free : supply.slots borrowed = .available) :
    ((supply.setSlot operationId borrowed .gpuTransferPending).update
        operationId fun transfer =>
          { transfer with
            demotionStagingIdx := some borrowed
            demotionUsesStaging := true }).update operationId
              (fun transfer => { transfer with demotionEvent := true }) =
      (supply.update operationId
        (PendingTransfer.borrowing borrowed)).setSlot operationId borrowed
          .gpuTransferPending := by
  have twice :=
    updateFirst_updateFirst operationId
      (fun transfer : PendingTransfer =>
        { transfer with
          demotionStagingIdx := some borrowed
          demotionUsesStaging := true })
      (fun transfer => { transfer with demotionEvent := true })
      (fun _ => rfl) supply.transfers
  simp only [Supply.update, Supply.setSlot, Supply.touchesOther, free, twice,
    ne_eq, not_true_eq_false, decide_false, Bool.false_and,
    Bool.false_eq_true, if_false]
  rfl

variable {answers : List Answer}

theorem copyDemotion_created
    (sourceSlot : Nat)
    (supply : Supply)
    (created : answers.headD .notReady ≠ .failed) :
    copyDemotion setup operationId sourceSlot supply answers =
      sendDemotion setup operationId sourceSlot
        (supply.update operationId fun transfer =>
          { transfer with demotionEvent := true })
        answers.tail := by
  unfold copyDemotion createDemotionEvent submit
  simp only [bind_apply, Call.ask_apply, check_apply,
    write_apply, decide_eq_true_eq]
  rw [if_pos created]

/-- What a demotion through the arena needs of the slot it will find. -/
def Borrows
    (setup : SupplySetup)
    (request : RequestReservation)
    (stagingIdx : Nat)
    (supply : Supply)
    (answers : List Answer) : Prop :=
  ∀ demotion,
    request.demotion = some demotion →
      setup.isSlotPinned demotion.destinationHostSlot = false →
        ∀ slot,
          firstAvailable setup supply = some slot →
            slot ∉ supply.named ∧
              slot ≠ stagingIdx ∧
              answers.headD .notReady ≠ .failed

instance
    (setup : SupplySetup)
    (request : RequestReservation)
    (stagingIdx : Nat)
    (supply : Supply)
    (answers : List Answer) :
    Decidable (Borrows setup request stagingIdx supply answers) :=
  inferInstanceAs (Decidable
    (∀ demotion ∈ request.demotion,
      setup.isSlotPinned demotion.destinationHostSlot = false →
        ∀ slot ∈ firstAvailable setup supply,
          slot ∉ supply.named ∧
            slot ≠ stagingIdx ∧
            answers.headD .notReady ≠ .failed))

theorem firstAvailable_spec
    {supply : Supply}
    (found : firstAvailable setup supply = some slot) :
    slot < setup.slotCount ∧ supply.slots slot = .available := by
  unfold firstAvailable at found
  split at found
  · exact ⟨List.mem_range.mp (List.mem_of_find?_eq_some found),
      by simpa using List.find?_some found⟩
  · contradiction

/-- The `try` block of `schedule_demotion`. -/
theorem copyDemotion_entered
    (sourceSlot : Nat) :
    Ensures (Entered setup allowed filling operationId slot)
      (catching (copyDemotion setup operationId sourceSlot)
        (abandonDemotion setup operationId))
      (fun _ => Entered setup allowed filling operationId slot)
      (Entered setup allowed filling operationId slot) :=
  .catching
    (.andThen createDemotionEvent_entered fun _ =>
      sendDemotion_entered sourceSlot)
    abandonDemotion_entered

/-- What `schedule_demotion` does once the record names the demotion. -/
theorem routeDemotion_entered
    {supply : Supply}
    {transfer : PendingTransfer}
    (destination sourceSlot : Nat)
    (entered : Entered setup allowed filling operationId slot supply)
    (found : supply.find operationId = some transfer)
    (blank : Blank transfer)
    (borrows :
      setup.isSlotPinned destination = false →
        ∀ borrowed,
          firstAvailable setup supply = some borrowed →
            borrowed ∉ supply.named ∧
              borrowed ≠ slot ∧
              answers.headD .notReady ≠ .failed) :
    Finished
      (fun _ => Entered setup allowed filling operationId slot)
      (Entered setup allowed filling operationId slot)
      ((routeDemotion setup operationId destination >>= fun routed =>
        if routed then
          catching (copyDemotion setup operationId sourceSlot)
            (abandonDemotion setup operationId)
        else
          Call.ret ()) supply answers) := by
  cases pinned : setup.isSlotPinned destination with
  | true =>
    have routed :
        routeDemotion setup operationId destination supply answers =
          (.ok true, supply, answers) := by
      simp only [routeDemotion, pinned, if_true, Call.ret_apply]
    simp only [bind_apply, routed, if_true]
    exact copyDemotion_entered sourceSlot supply answers entered
  | false =>
    cases candidate : firstAvailable setup supply with
    | none =>
      have dropped :
          Ensures (Entered setup allowed filling operationId slot)
            (onRegistry fun registry =>
              registry.dropDemotion operationId)
            (fun _ => Entered setup allowed filling operationId slot)
            (Entered setup allowed filling operationId slot) :=
        onRegistry_ensures
          (fun registry =>
            Nat.le_of_eq (Frame.refl 0 registry).dropDemotion.nextOperationId.symm)
          fun _ _ grows entered => entered.onRegistry grows
      have finished := dropped supply answers entered
      simp only [bind_apply, routeDemotion, pinned, candidate,
        Bool.false_eq_true, if_false, Call.read_apply]
      generalize onRegistry _ supply answers = outcome at finished ⊢
      rcases outcome with ⟨error | value, after, rest⟩
      · exact finished
      · exact finished
    | some borrowed =>
      obtain ⟨unnamed, other, created⟩ := borrows pinned borrowed candidate
      obtain ⟨inRange, free⟩ := firstAvailable_spec candidate
      have routed :
          routeDemotion setup operationId destination supply answers =
            (.ok true,
              (supply.setSlot operationId borrowed
                .gpuTransferPending).update operationId fun transfer =>
                  { transfer with
                    demotionStagingIdx := some borrowed
                    demotionUsesStaging := true },
              answers) := by
        simp only [routeDemotion, pinned, Bool.false_eq_true, if_false,
          bind_apply, Call.read_apply, candidate,
          beginDirectTransfer, transition, validateSlot, check_apply,
          inRange, decide_true, if_true, free, write_apply,
          Call.ret_apply]
      simp only [bind_apply, routed, if_true]
      unfold catching
      rw [copyDemotion_created sourceSlot _ created,
        supply.borrowing_eq operationId free]
      have sent := sendDemotion_entered sourceSlot _ answers.tail
        (entered.borrow found blank inRange unnamed other)
      generalize sendDemotion setup operationId sourceSlot _ answers.tail =
        outcome at sent ⊢
      rcases outcome with ⟨error | value, after, rest⟩
      · exact abandonDemotion_entered error after rest sent
      · exact sent

theorem startDemotionCopy_entered
    {request : RequestReservation}
    {demotion : DemotionReservation}
    {supply : Supply}
    (carries : request.demotion = some demotion)
    (opened :
      Opened setup allowed filling request.operationId slot supply)
    (absent : supply.find request.operationId = none)
    (borrows : Borrows setup request slot supply answers) :
    Finished
      (fun _ => Entered setup allowed filling request.operationId slot)
      (Entered setup allowed filling request.operationId slot)
      (startDemotionCopy setup request demotion supply answers) := by
  obtain ⟨grown, sameNames, record, recorded, blank⟩ :=
    opened.ensure_fresh absent request.globalExpertId
  have sameSlots :
      (supply.ensure request.operationId request.globalExpertId).slots =
        supply.slots := by
    unfold Supply.ensure
    split <;> rfl
  have own := (Supply.mem_of_find recorded).2
  have settled := grown.steady.settled recorded
  let noting : PendingTransfer → PendingTransfer := fun transfer =>
    { transfer with
      demotedExpertId := demotion.victimGid
      demotionSourceSlot := some demotion.sourceVramSlot
      demotionDestinationSlot := some demotion.destinationHostSlot }
  have found :
      ((supply.ensure request.operationId request.globalExpertId).update
        request.operationId noting).find request.operationId =
          some (noting record) :=
    Supply.find_update recorded own
  have entered :
      Entered setup allowed filling request.operationId slot
        ((supply.ensure request.operationId request.globalExpertId).update
          request.operationId noting) :=
    ⟨grown.update recorded rfl rfl ⟨rfl, rfl, rfl⟩
      ⟨settled.failed, settled.submitted, settled.demoted, settled.routed⟩,
      noting record, found⟩
  have names :
      ((supply.ensure request.operationId request.globalExpertId).update
        request.operationId noting).named = supply.named :=
    (Supply.named_update recorded rfl rfl).trans sameNames
  unfold startDemotionCopy
  simp only [bind_apply, write_apply, hostSlotPtr, check_apply]
  by_cases inside :
      (decide (demotion.destinationHostSlot < setup.hostSlots)) = true
  · rw [if_pos inside]
    refine routeDemotion_entered demotion.destinationHostSlot
      demotion.sourceVramSlot entered found
      ⟨blank.unstaged, blank.unrouted⟩ ?_
    intro unpinned borrowed candidate
    have before : firstAvailable setup supply = some borrowed := by
      simpa only [firstAvailable, Supply.update, sameSlots] using candidate
    rw [names]
    exact borrows demotion carries unpinned borrowed before
  · rw [if_neg inside]
    exact entered

theorem noteDroppedDemotion_opened
    (request : RequestReservation) :
    Ensures
      (Opened setup allowed filling request.operationId slot)
      (noteDroppedDemotion request)
      (fun _ => Opened setup allowed filling request.operationId slot)
      (Stopped setup (onReads allowed) filling request.operationId) := by
  refine .read fun current => .branch (fun _ => ?_) (fun _ => ?_)
  · exact .ret fun _ holds => holds.1
  · have ensured :
        Ensures
          (fun supply =>
            Opened setup allowed filling request.operationId slot supply ∧
              supply = current)
          (Call.write fun supply =>
            supply.ensure request.operationId request.globalExpertId :
            SupplyCall Unit)
          (fun _ => Entered setup allowed filling request.operationId slot)
          (Stopped setup (onReads allowed) filling request.operationId) :=
      .write fun _ holds => holds.1.ensure _
    refine .andThen ensured fun _ => ?_
    cases current.registry.findOperationVictim request.operationId with
    | none => exact .ret fun _ entered => entered.opened
    | some gid =>
      refine .write fun supply entered => ?_
      refine Entered.opened ?_
      refine entered.update (fun _ => ⟨rfl, rfl, rfl, rfl, rfl⟩) ?_
      intro transfer found
      have settled := entered.opened.steady.settled found
      exact ⟨settled.failed, settled.submitted, settled.demoted,
        settled.routed⟩

/-- Scheduling a demotion borrows a slot that is free or gives up. -/
theorem scheduleDemotion_opened
    {request : RequestReservation}
    {supply : Supply}
    (opened :
      Opened setup allowed filling request.operationId slot supply)
    (absent : supply.find request.operationId = none)
    (borrows : Borrows setup request slot supply answers) :
    Finished
      (fun _ => Opened setup allowed filling request.operationId slot)
      (Stopped setup (onReads allowed) filling request.operationId)
      (scheduleDemotion setup request supply answers) := by
  unfold scheduleDemotion
  cases carries : request.demotion with
  | none => exact noteDroppedDemotion_opened request supply answers opened
  | some demotion =>
    have finished :=
      startDemotionCopy_entered carries opened absent borrows
    simp only
    generalize startDemotionCopy setup request demotion supply answers =
      outcome at finished ⊢
    rcases outcome with ⟨error | value, after, rest⟩
    · exact finished.stopped
    · exact finished.opened

end Demotion

/-! ## Moving the bytes -/

section Move

variable {request : RequestReservation}

theorem uploadClaimed_working
    (sourceSlot : Option Nat)
    (what : String) :
    Ensures
      (fun supply =>
        Working setup (onReads allowed) filling request.operationId slot
            supply ∧
          supply.slots slot = .gpuTransferPending)
      (uploadClaimed setup request slot sourceSlot what)
      (fun _ => Steady setup (onReads allowed) filling)
      (Stopped setup (onReads allowed) filling request.operationId) := by
  refine .andThen (.leaves (uploadFromHostExpert_leaves _)
    fun _ holds => holds.1.stopped) fun _ => ?_
  refine .andThen (.leaves (submit_leaves _) fun _ holds => holds.1.stopped)
    fun _ => ?_
  exact recordH2dEvent_working sourceSlot request.vramSlot

/-- Binding a slot that is already bound changes nothing. -/
theorem Working.rebind
    {frame : Reads → Holdings → Prop}
    {supply : Supply}
    (working : Working setup frame filling operationId slot supply) :
    Working setup frame filling operationId slot
      (supply.update operationId fun transfer =>
        { transfer with stagingIdx := slot, hasStaging := true }) := by
  obtain ⟨transfer, found, staged, idx, unfailed, unsubmitted⟩ :=
    working.bound
  have settled := working.steady.settled found
  have same :
      ({ transfer with
          stagingIdx := slot
          hasStaging := true } : PendingTransfer) = transfer := by
    rw [← idx, ← staged]
  refine ⟨working.steady.update found rfl ?_ ?_, ?_, working.idle⟩
  · rw [same]
  · rw [same]
    exact settled
  · exact ⟨_, Supply.find_update found (Supply.mem_of_find found).2,
      rfl, rfl, unfailed, unsubmitted⟩

theorem stageHostSlot_working
    {Before : Supply → Prop}
    (binds :
      ∀ supply,
        Before supply →
          Working setup (onReads allowed) filling request.operationId slot
            (supply.update request.operationId fun transfer =>
              { transfer with stagingIdx := slot, hasStaging := true }))
    (sourceSlot : Nat) :
    Ensures Before
      (stageHostSlot setup request.operationId slot sourceSlot)
      (fun _ supply =>
        Working setup (onReads allowed) filling request.operationId slot
            supply ∧
          supply.slots slot = .ioComplete)
      (Stopped setup (onReads allowed) filling request.operationId) := by
  refine .andThen (.write binds) fun _ => ?_
  refine .andThen (.leaves hostSlotPtr_leaves
    fun _ working => working.stopped) fun _ => ?_
  exact stagePayload_working.weaken (fun _ working => working)
    (fun _ _ after => after) (fun _ working => working.stopped)

/-- The slot moves from staged to copying. -/
theorem beginGpuTransfer_working
    {frame : Reads → Holdings → Prop}
    {Before : Supply → Prop}
    (working :
      ∀ supply,
        Before supply →
          Working setup frame filling operationId slot supply) :
    Ensures Before
      (beginGpuTransfer setup operationId slot)
      (fun _ supply =>
        Working setup frame filling operationId slot supply ∧
          supply.slots slot = .gpuTransferPending)
      (Stopped setup frame filling operationId) :=
  (transition_working .ioComplete .gpuTransferPending).weaken working
    (fun _ _ after => after) (fun _ working => working.stopped)

/-- Each way to serve a Warm hit leaves the slots owned: -/
theorem uploadStagedWarm_steady :
    Ensures
      (Entered setup allowed filling request.operationId slot)
      (uploadStagedWarm setup request slot)
      (fun _ => Steady setup (onReads allowed) filling)
      (Stopped setup (onReads allowed) filling request.operationId) := by
  refine .andThen (stageHostSlot_working ?_ _) fun _ => ?_
  · intro supply entered
    obtain ⟨transfer, found⟩ := entered.present
    exact entered.opened.bind found
  refine .andThen (beginGpuTransfer_working fun _ holds => holds.1)
    fun _ => ?_
  refine .andThen (.leaves waitForDemotionDependency_leaves
    fun _ holds => holds.1.stopped) fun _ => ?_
  exact uploadClaimed_working _ _

theorem uploadMapped_steady :
    Ensures
      (Entered setup allowed filling request.operationId slot)
      (uploadMapped setup request slot)
      (fun _ => Steady setup (onReads allowed) filling)
      (Stopped setup (onReads allowed) filling request.operationId) := by
  refine .andThen (.check fun _ _ entered => entered.stopped) fun _ => ?_
  refine .andThen (bindStaging_working.weaken
    (fun _ holds => holds.2.opened) (fun _ _ after => after)
    (fun _ stopped => stopped)) fun _ => ?_
  refine .andThen (stagePayload_working.weaken (fun _ working => working)
    (fun _ _ after => after) (fun _ working => working.stopped)) fun _ => ?_
  refine .andThen (beginGpuTransfer_working fun _ holds => holds.1)
    fun _ => ?_
  refine .andThen (.leaves waitForDemotionDependency_leaves
    fun _ holds => holds.1.stopped) fun _ => ?_
  exact uploadClaimed_working _ _

theorem uploadPinnedWarm_steady :
    Ensures
      (Entered setup allowed filling request.operationId slot)
      (uploadPinnedWarm setup request slot)
      (fun _ => Steady setup (onReads allowed) filling)
      (Stopped setup (onReads allowed) filling request.operationId) := by
  refine .andThen (bindStaging_working.weaken
    (fun _ entered => entered.opened) (fun _ _ after => after)
    (fun _ stopped => stopped)) fun _ => ?_
  refine .andThen ((transition_working .available
    .gpuTransferPending).weaken (fun _ working => working)
      (fun _ _ after => after) (fun _ working => working.stopped)) fun _ => ?_
  refine .andThen (.leaves waitForDemotionDependency_leaves
    fun _ holds => holds.1.stopped) fun _ => ?_
  refine .andThen (.leaves hostSlotPtr_leaves
    fun _ holds => holds.1.stopped) fun _ => ?_
  exact uploadClaimed_working _ _

theorem stageWarm_steady :
    Ensures
      (Entered setup allowed filling request.operationId slot)
      (stageWarm setup request slot)
      (fun _ => Steady setup (onReads allowed) filling)
      (Stopped setup (onReads allowed) filling request.operationId) := by
  refine .andThen (bindStaging_working.weaken
    (fun _ entered => entered.opened) (fun _ _ after => after)
    (fun _ stopped => stopped)) fun _ => .branch (fun _ => ?_) (fun _ => ?_)
  · exact (transition_working .available .ioComplete).weaken
      (fun _ working => working) (fun _ _ after => after.1.steady)
      (fun _ working => working.stopped)
  · exact (stageHostSlot_working (fun _ working => working.rebind)
      _).weaken (fun _ working => working)
        (fun _ _ after => after.1.steady) (fun _ stopped => stopped)

/-- Whatever the reads are. -/
def anyReads : Reads → Prop :=
  fun _ => True

theorem Working.readsOnly
    {supply after : Supply}
    (working :
      Working setup (onReads anyReads) filling operationId slot supply)
    (same : Supply.SameTable supply after) :
    Working setup (onReads anyReads) filling operationId slot after := by
  refine ⟨working.steady.readsOnly (fun _ _ _ _ => trivial) same, ?_,
    working.idle⟩
  unfold Bound Supply.find
  rw [same.transfers]
  exact working.bound

theorem submitRead_working
    (fileOffset : Nat)
    (chunk : ReadChunk) :
    Ensures
      (Working setup (onReads anyReads) filling operationId slot)
      (submitRead setup fileOffset chunk)
      (fun _ => Working setup (onReads anyReads) filling operationId slot)
      (Working setup (onReads anyReads) filling operationId slot) := by
  have valid :
      (validateRequest setup chunk.stagingIdx chunk.length
        fileOffset).Leaves :=
    .andThen (.check _ _) fun _ => .andThen (.check _ _) fun _ => .check _ _
  refine .andThen (.leaves valid fun _ working => working)
    fun _ => .read fun current => ?_
  refine .andThen (.check fun _ _ holds => holds.1) fun _ => .write ?_
  rintro supply ⟨-, working, -⟩
  exact working.readsOnly ⟨rfl, rfl, rfl, rfl⟩

theorem submitReadChunks_working
    (location : PayloadLocation)
    (firstUserData : Nat) :
    Ensures
      (Working setup (onReads anyReads) filling operationId slot)
      (submitReadChunks setup operationId slot location firstUserData)
      (fun _ => Working setup (onReads anyReads) filling operationId slot)
      (Working setup (onReads anyReads) filling operationId slot) := by
  refine .andThen (.check fun _ _ working => working) fun _ => ?_
  refine .andThen (.weaken (.forEach _ fun _ _ => submitRead_working _ _)
    (fun _ holds => holds.2) (fun _ _ after => after) (fun _ after => after))
    fun _ => ?_
  exact .ret fun _ working => working

/-- A direct read is started on the slot the request holds. -/
theorem startDirectRead_steady :
    Ensures
      (Entered setup anyReads filling request.operationId slot)
      (startDirectRead setup request slot)
      (fun _ => Steady setup (onReads anyReads) filling)
      (Stopped setup (onReads anyReads) filling request.operationId) := by
  refine .andThen (bindStaging_working.weaken
    (fun _ entered => entered.opened) (fun _ _ after => after)
    (fun _ stopped => stopped)) fun _ => ?_
  refine .andThen (.check fun _ _ working => working.stopped) fun _ => ?_
  refine .read fun current => ?_
  refine .andThen ((transition_working .available .ioPending).weaken
    (fun _ holds => holds.1.2) (fun _ _ after => after.1)
    (fun _ working => working.stopped)) fun _ => ?_
  refine .andThen ((submitReadChunks_working _ _).weaken
    (fun _ working => working) (fun _ _ after => after)
    (fun _ working => working.stopped)) fun count => ?_
  refine .andThen (.write fun supply working => ?_)
    fun _ => .ret fun _ steady => steady
  exact Working.steady (working.readsOnly ⟨rfl, rfl, rfl, rfl⟩)

/-- Whichever way the bytes move, the slots stay owned. -/
theorem moveBytes_steady :
    Ensures
      (fun pair : Supply × PayloadTransfer =>
        Entered setup anyReads filling request.operationId slot pair.1)
      (moveBytes setup request slot)
      (fun _ pair => Steady setup (onReads anyReads) filling pair.1)
      (fun pair =>
        Stopped setup (onReads anyReads) filling request.operationId
          pair.1) := by
  refine .branch (fun _ => ?_) (fun _ => .branch (fun _ => ?_) (fun _ => ?_))
  · refine .read fun current => ?_
    refine .andThen (.weaken (.onState startDirectRead_steady)
      (fun _ holds => holds.1) (fun _ _ after => after)
      (fun _ stopped => stopped)) fun _ => ?_
    exact .write fun _ steady => steady
  · exact .andThen (.onState stageWarm_steady) fun _ =>
      .write fun _ steady => steady
  · refine .andThen (.onState ?_) fun _ => .write fun _ steady => steady
    refine .branch (fun _ => .branch (fun _ => ?_) (fun _ => ?_)) (fun _ => ?_)
    · exact uploadPinnedWarm_steady
    · exact uploadStagedWarm_steady
    · exact uploadMapped_steady

end Move

end Aeon.Transport
