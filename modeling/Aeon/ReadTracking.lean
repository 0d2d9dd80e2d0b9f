import Aeon.SupplyRun
import Mathlib.Data.List.Perm.Subperm

namespace Aeon.Transport

open Aeon.Registry

/-!
# The reads of a supply

A read is outstanding until the drive has posted its completion.  A slot with a
read outstanding is being read for the operation that queued it, no two reads share
a number, and an entry of a batch that waits for reads knows their numbers.  This
module says what it means to follow the reads so, and what it takes to keep it
while reads drain: move on from the queue to the store, or leave it.
-/

namespace Reads

/-- The reads the drive has not completed. -/
def outstanding (reads : Reads) : List ReadChunk :=
  reads.queued ++ reads.inFlight

/-- The slots they target, each with its operation. -/
def filling (reads : Reads) : List (Nat × Nat) :=
  reads.outstanding.map fun chunk => (chunk.operationId, chunk.stagingIdx)

/-- Every read, wherever it is: its number and its operation. -/
def items (reads : Reads) : List (Nat × Nat) :=
  (reads.outstanding.map fun chunk => (chunk.userData, chunk.operationId)) ++
    (reads.posted ++ reads.completions).map fun completion =>
      (completion.userData, completion.operationId)

/-- No two reads share a number, and none was consumed by another transfer. -/
structure Sound (reads : Reads) : Prop where
  distinct : (reads.items.map Prod.fst).Nodup
  numbered : ∀ item ∈ reads.items, item.1 < reads.nextDirectIoId
  unmixed : reads.mixups = []

/-- No read of the operation is outstanding. -/
def Quiet
    (reads : Reads)
    (operationId : Nat) : Prop :=
  ∀ chunk ∈ reads.outstanding, chunk.operationId ≠ operationId

/-- Reads have moved on or left, and none was added. -/
structure Drains (before after : Reads) : Prop where
  items : List.Subperm after.items before.items
  outstanding : after.outstanding ⊆ before.outstanding
  number : after.nextDirectIoId = before.nextDirectIoId
  unmixed : before.mixups = [] → after.mixups = []

/-- The reads with a completion more in the store. -/
def storing
    (reads : Reads)
    (completion : DirectIoCompletion) : Reads :=
  { reads with completions := reads.completions ++ [completion] }

end Reads

/-- What an entry of a batch knows of its reads. -/
structure Followed
    (reads : Reads)
    (state : PayloadTransfer) : Prop where
  complete : state.ioComplete = true → reads.Quiet state.operationId
  listed :
    state.ioPending = true →
      ∀ chunk ∈ reads.outstanding,
        chunk.operationId = state.operationId →
          state.ioUserData ≤ chunk.userData ∧
            chunk.userData < state.ioUserData + state.ioRequestCount
  own :
    state.ioPending = true →
      ∀ item ∈ reads.items,
        state.ioUserData ≤ item.1 →
          item.1 < state.ioUserData + state.ioRequestCount →
            item.2 = state.operationId
  numbered :
    state.ioPending = true →
      state.ioUserData + state.ioRequestCount ≤ reads.nextDirectIoId

/-! ## Draining -/

namespace Reads.Drains

variable {before after last : Reads}

theorem refl (reads : Reads) : Drains reads reads :=
  ⟨.refl _, List.Subset.refl _, rfl, id⟩

theorem trans
    (first : Drains before after)
    (second : Drains after last) :
    Drains before last :=
  ⟨second.items.trans first.items,
    List.Subset.trans second.outstanding first.outstanding,
    second.number.trans first.number,
    fun unmixed => second.unmixed (first.unmixed unmixed)⟩

section

variable
    (drains : Drains before after)

include drains

theorem filling :
    after.filling ⊆ before.filling :=
  List.map_subset _ drains.outstanding

theorem quiet
    {operationId : Nat}
    (quiet : before.Quiet operationId) :
    after.Quiet operationId :=
  fun chunk listed => quiet chunk (drains.outstanding listed)

theorem sound
    (sound : before.Sound) :
    after.Sound := by
  refine ⟨?_, fun item listed => ?_, drains.unmixed sound.unmixed⟩
  · obtain ⟨kept, same, part⟩ := drains.items
    exact (same.map Prod.fst).nodup_iff.mp
      (sound.distinct.sublist (part.map Prod.fst))
  · rw [drains.number]
    exact sound.numbered item (drains.items.subset listed)

theorem followed
    {state : PayloadTransfer}
    (followed : Followed before state) :
    Followed after state where
  complete done := drains.quiet (followed.complete done)
  listed pending chunk listed :=
    followed.listed pending chunk (drains.outstanding listed)
  own pending item listed :=
    followed.own pending item (drains.items.subset listed)
  numbered pending := drains.number ▸ followed.numbered pending

end

end Reads.Drains

/-! ## What the reader's calls do to the reads -/

namespace Supply

variable (supply : Supply)

theorem post_drains
    (index : Nat)
    (result : Option Int) :
    supply.reads.Drains (supply.post index result).reads := by
  unfold post
  cases held : supply.inFlight[index]? with
  | none => exact .refl _
  | some chunk =>
    obtain ⟨inside, rfl⟩ := List.getElem?_eq_some_iff.mp held
    have moved :
        (supply.inFlight[index] :: supply.inFlight.eraseIdx index).Perm
          supply.inFlight :=
      List.getElem_cons_eraseIdx_perm inside
    refine ⟨List.Perm.subperm ?_, ?_, rfl, id⟩
    · have counted :
          ((supply.inFlight[index] ::
              supply.inFlight.eraseIdx index).map
                fun chunk => (chunk.userData, chunk.operationId)).Perm
            (supply.inFlight.map fun chunk =>
              (chunk.userData, chunk.operationId)) :=
        moved.map _
      simp only [Reads.items, Reads.outstanding, reads, ReadChunk.completion,
        List.map_append, List.map_cons, List.append_assoc, List.cons_append,
        List.nil_append]
      refine List.Perm.append_left _ ?_
      refine List.Perm.trans ?_ (counted.append_right _)
      exact (List.perm_middle.append_left _).trans List.perm_middle
    · exact List.append_subset.mpr
        ⟨List.subset_append_left _ _,
          List.Subset.trans List.eraseIdx_subset
            (List.subset_append_right _ _)⟩

theorem emplace_drains
    (completion : DirectIoCompletion) :
    (supply.reads.storing completion).Drains
      (supply.emplace completion).reads := by
  unfold emplace
  split
  · refine ⟨?_, List.Subset.refl _, rfl, id⟩
    refine List.Sublist.subperm ?_
    simp only [Reads.items, Reads.storing, reads, Reads.outstanding,
      List.map_append, List.append_assoc]
    refine List.Sublist.append_left (List.Sublist.append_left
      (List.Sublist.append_left ?_ _) _) _
    exact List.sublist_append_left _ _
  · exact .refl _

theorem emplacePosted_drains
    {completion : DirectIoCompletion}
    {rest : List DirectIoCompletion}
    (posted : supply.posted = completion :: rest) :
    supply.reads.Drains
      ({ supply with posted := rest }.reads.storing completion) := by
  refine ⟨List.Perm.subperm ?_, List.Subset.refl _, rfl, id⟩
  simp only [Reads.items, Reads.outstanding, Reads.storing, reads, posted,
    List.map_append, List.map_cons, List.map_nil, List.cons_append]
  refine List.Perm.append_left _ ?_
  rw [← List.append_assoc]
  exact List.perm_append_singleton _ _

/-- The whole ring emptied into the store. -/
theorem drainPosted_drains :
    supply.reads.Drains supply.drainPosted.reads := by
  have loop (posted : List DirectIoCompletion) (start : Supply) :
      Reads.Drains
        { start.reads with posted := posted ++ start.posted }
        (posted.foldl emplace start).reads := by
    induction posted generalizing start with
    | nil => exact .refl _
    | cons completion rest ih =>
      have first := emplacePosted_drains
        { start with posted := completion :: rest ++ start.posted } rfl
      have second := emplace_drains
        { start with posted := rest ++ start.posted } completion
      have same :
          ({ start with
              posted := rest ++ start.posted }.emplace completion).reads =
            { (start.emplace completion).reads with
              posted := rest ++ (start.emplace completion).posted } := by
        unfold emplace
        have unread :
            ({ start with posted := rest ++ start.posted } : Supply).stored
                completion.userData =
              start.stored completion.userData := rfl
        rw [unread]
        split <;> rfl
      rw [same] at second
      exact (first.trans second).trans (ih _)
  have drained := loop supply.posted { supply with posted := [] }
  simp only [List.append_nil] at drained
  exact drained

theorem drainPosted_queued :
    supply.drainPosted.queued = supply.queued := by
  have loop (posted : List DirectIoCompletion) (start : Supply) :
      (posted.foldl emplace start).queued = start.queued := by
    induction posted generalizing start with
    | nil => rfl
    | cons completion rest ih =>
      refine (ih _).trans ?_
      unfold emplace
      split <;> rfl
  exact loop supply.posted _

theorem consume_drains
    {operationId : Nat}
    {completion : DirectIoCompletion}
    (own : completion.operationId = operationId) :
    supply.reads.Drains (supply.consume operationId completion).reads := by
  refine ⟨List.Sublist.subperm ?_, List.Subset.refl _, rfl, ?_⟩
  · refine List.Sublist.append_left (List.Sublist.map _ ?_) _
    exact List.Sublist.append_left List.filter_sublist _
  · intro unmixed
    change (if completion.operationId = operationId then supply.mixups
      else _) = []
    rw [if_pos own]
    exact unmixed

/-- Reads of the queue go to the drive. -/
theorem enter_drains (count : Nat) :
    supply.reads.Drains (supply.enter count).reads := by
  have moved :
      (supply.enter count).reads.outstanding.Perm supply.reads.outstanding := by
    change (supply.queued.drop count ++
      (supply.inFlight ++ supply.queued.take count)).Perm
        (supply.queued ++ supply.inFlight)
    calc (supply.queued.drop count ++
          (supply.inFlight ++ supply.queued.take count)).Perm
          (supply.queued.drop count ++
            (supply.queued.take count ++ supply.inFlight)) :=
          List.perm_append_comm.append_left _
      _ = supply.queued.drop count ++ supply.queued.take count ++
            supply.inFlight := (List.append_assoc _ _ _).symm
      List.Perm _ (supply.queued.take count ++ supply.queued.drop count ++
            supply.inFlight) := List.perm_append_comm.append_right _
      _ = supply.queued ++ supply.inFlight := by rw [List.take_append_drop]
  refine ⟨List.Perm.subperm ?_, moved.subset, rfl, id⟩
  exact (moved.map _).append_right _

end Supply

/-! ## Following the reads -/

variable
    {setup : SupplySetup}
    {frame : Reads → Holdings → Prop}
    {entries : List PayloadTransfer}
    {supply after : Supply}
    {operationId slot : Nat}

/--
Every outstanding read fills the slot its operation's record names, the reads are
sound, and the entries know theirs.
-/
structure Following
    (setup : SupplySetup)
    (frame : Reads → Holdings → Prop)
    (entries : List PayloadTransfer)
    (supply : Supply) : Prop where
  steady : Steady setup frame { reads := supply.reads.filling } supply
  sound : supply.reads.Sound
  followed : ∀ state ∈ entries, Followed supply.reads state
  issued :
    ∀ state ∈ entries,
      state.reading = true →
        state.operationId < supply.registry.nextOperationId

/-- What stands in a supply. -/
def Supply.standing (supply : Supply) : Filling where
  reads := supply.reads.filling
  numbered := supply.registry.nextOperationId

/-- A frame together with the reads as they are. -/
def pinned
    (reads : Reads)
    (frame : Reads → Holdings → Prop) : Reads → Holdings → Prop :=
  fun current held => current = reads ∧ frame current held

namespace Following

section

variable
    (following : Following setup frame entries supply)

include following

theorem pin :
    Steady setup (pinned supply.reads frame) supply.standing supply :=
  ⟨following.steady.owned, ⟨rfl, following.steady.framed⟩,
    following.steady.fills, Nat.le_refl _⟩

/-- A call that kept the reads, the slots they fill and the count. -/
theorem unpin
    {other : Reads → Holdings → Prop}
    (steady : Steady setup other supply.standing after)
    (same : after.reads = supply.reads)
    (framed : frame after.reads after.holdings) :
    Following setup frame entries after := by
  refine ⟨⟨steady.owned, framed, ?_, Nat.zero_le _⟩, ?_, ?_, ?_⟩
  · rw [same]
    exact steady.fills
  · rw [same]
    exact following.sound
  · rw [same]
    exact following.followed
  · intro state listed reading
    exact Nat.lt_of_lt_of_le (following.issued state listed reading)
      steady.counted

end

theorem ensures
    {Value : Type}
    {call : SupplyCall Value}
    (pins :
      ∀ reads filling,
        Call.Ensures (Steady setup (pinned reads frame) filling) call
          (fun _ => Steady setup (pinned reads frame) filling)
          (Steady setup (pinned reads frame) filling))
    (More : Reads → Prop) :
    Call.Ensures
      (fun supply =>
        Following setup frame entries supply ∧ More supply.reads)
      call
      (fun _ supply =>
        Following setup frame entries supply ∧ More supply.reads)
      (Following setup frame entries) := by
  rintro supply answers ⟨following, more⟩
  have finished := pins supply.reads supply.standing supply answers
    following.pin
  generalize call supply answers = outcome at finished ⊢
  rcases outcome with ⟨error | value, after, rest⟩
  · exact following.unpin finished finished.framed.1 finished.framed.2
  · have same : after.reads = supply.reads := finished.framed.1
    exact ⟨following.unpin finished same finished.framed.2, same ▸ more⟩

section

variable
    (following : Following setup frame entries supply)

include following

theorem drains
    (same : Supply.SameTable supply after)
    (framed : frame after.reads supply.holdings)
    (drained : supply.reads.Drains after.reads) :
    Following setup frame entries after := by
  have free :
      Steady setup (onReads anyReads) { reads := supply.reads.filling }
        supply :=
    ⟨following.steady.owned, trivial, following.steady.fills, Nat.zero_le _⟩
  have steady := free.readsOnly (fun _ _ _ _ => trivial) same
  have holdings : after.holdings = supply.holdings := by
    unfold Supply.holdings
    rw [same.transfers]
  refine ⟨⟨?_, ?_, ?_, Nat.zero_le _⟩, drained.sound following.sound, ?_, ?_⟩
  · exact steady.owned
  · rw [holdings]
    exact framed
  · exact fun filled listed => steady.fills filled (drained.filling listed)
  · exact fun state listed => drained.followed (following.followed state listed)
  · rw [same.registry]
    exact following.issued

theorem idle
    (clear : Clear operationId slot supply)
    (quiet : supply.reads.Quiet operationId) :
    slot ∉ supply.standing.slots := by
  intro listed
  obtain ⟨filled, present, rfl⟩ := List.mem_map.mp listed
  obtain ⟨-, owner, ownerListed, own, names⟩ :=
    following.steady.fills filled present
  obtain ⟨chunk, outstanding, rfl⟩ := List.mem_map.mp present
  have same : owner.operationId = operationId := by
    by_contra other
    exact clear owner ownerListed other names
  exact quiet chunk outstanding (own.symm.trans same)

/-- A request without outstanding reads may be marked failed. -/
theorem unread
    (quiet : supply.reads.Quiet operationId) :
    Unread supply.standing operationId supply := by
  intro transfer found staged _
  obtain ⟨listed, own⟩ := Supply.mem_of_find found
  refine following.idle ?_ quiet
  exact own ▸ following.steady.owned.clear_of_mem listed
    (PendingTransfer.mem_stagingSlots.mpr (Or.inl ⟨staged, rfl⟩))

end

end Following

end Aeon.Transport
