import Aeon.ReadPipeline

namespace Aeon.Transport

open Aeon.Registry
open Call (Along Ensures Finished bind_apply bind_of_ok check_apply forEach read_apply
  write_apply)

/-!
# `dispatch` and the reads

A direct read is queued one chunk at a time, under the next free numbers.  If the
reader takes all its chunks or refuses the first, a `dispatch` leaves the reads
followed: either they are as they were, or the new entry knows its own.
-/

variable
    {setup : SupplySetup}
    {filling : Filling}
    {request : RequestReservation}
    {slot : Nat}

/-! ## Queueing a payload -/

/-- Whether `validate_request` lets a read through. -/
def acceptsRead
    (setup : SupplySetup)
    (fileOffset : Nat)
    (chunk : ReadChunk) : Bool :=
  setup.slotAligned chunk.stagingIdx &&
    (chunk.length ≠ 0 && chunk.length < 2 ^ 32 &&
      chunk.length % setup.sectorSize = 0) &&
    fileOffset % setup.sectorSize = 0

variable {chunk : ReadChunk}
variable {supply : Supply}
variable {location : PayloadLocation}

theorem submitRead_accepted
    {fileOffset : Nat}
    (valid : acceptsRead setup fileOffset chunk = true)
    (room : supply.queued.length < setup.sqEntries)
    (answers : List Answer) :
    submitRead setup fileOffset chunk supply answers =
      (.ok (), { supply with queued := supply.queued ++ [chunk] },
        answers) := by
  unfold acceptsRead at valid
  simp only [Bool.and_eq_true] at valid
  simp only [submitRead, validateRequest, bind_apply, check_apply,
    read_apply, write_apply, valid.1.1, valid.1.2, valid.2, room,
    decide_true, Bool.and_self, if_true]

theorem submitRead_refused
    {fileOffset : Nat}
    (refused :
      acceptsRead setup fileOffset chunk = false ∨
        ¬ supply.queued.length < setup.sqEntries)
    (answers : List Answer) :
    ∃ error,
      submitRead setup fileOffset chunk supply answers =
        (.error error, supply, answers) := by
  unfold acceptsRead at refused
  simp only [submitRead, validateRequest, bind_apply, check_apply,
    read_apply, write_apply]
  generalize setup.slotAligned chunk.stagingIdx = aligned at refused ⊢
  generalize (chunk.length ≠ 0 && chunk.length < 2 ^ 32 &&
    chunk.length % setup.sectorSize = 0 : Bool) = sized at refused ⊢
  generalize (fileOffset % setup.sectorSize = 0 : Bool) = placed at refused ⊢
  cases aligned with
  | false => exact ⟨_, rfl⟩
  | true =>
    cases sized with
    | false => exact ⟨_, rfl⟩
    | true =>
      cases placed with
      | false => exact ⟨_, rfl⟩
      | true =>
        have full := refused.resolve_left (by decide)
        simp only [full, if_true, decide_false, Bool.false_eq_true,
          if_false]
        exact ⟨_, rfl⟩

theorem submitReads_accepted
    (items : List Nat)
    (fileOffset : Nat → Nat)
    (chunk : Nat → ReadChunk)
    (supply : Supply)
    (answers : List Answer)
    (valid :
      ∀ index ∈ items, acceptsRead setup (fileOffset index) (chunk index))
    (room : supply.queued.length + items.length ≤ setup.sqEntries) :
    forEach
        (fun index => submitRead setup (fileOffset index) (chunk index))
        items supply answers =
      (.ok (), { supply with queued := supply.queued ++ items.map chunk },
        answers) := by
  induction items generalizing supply with
  | nil =>
    rw [List.map_nil, List.append_nil]
    rfl
  | cons index items ih =>
    rw [List.length_cons] at room
    have taken := submitRead_accepted (valid index List.mem_cons_self)
      (show supply.queued.length < setup.sqEntries by omega) answers
    unfold forEach Call.andThen
    rw [taken]
    dsimp only
    rw [ih _ (fun other later =>
      valid other (List.mem_cons_of_mem _ later))]
    · simp
    · simp only [List.length_append, List.length_singleton]
      omega

/--
What `submit_read_chunks` needs to take all reads of a payload or none: the payload
is one read, or its length is whole sectors and the queue has room for all its
reads or for none.
-/
def TakenWhole
    (setup : SupplySetup)
    (location : PayloadLocation)
    (queued : Nat) : Prop :=
  chunkCount location.byteLength ≤ 1 ∨
    (location.byteLength % setup.sectorSize = 0 ∧
      (queued + chunkCount location.byteLength ≤ setup.sqEntries ∨
        setup.sqEntries ≤ queued))

instance
    (location : PayloadLocation)
    (queued : Nat) :
    Decidable (TakenWhole setup location queued) :=
  inferInstanceAs (Decidable (_ ∨ _))

theorem acceptsRead_of_first
    {operationId firstUserData index : Nat}
    (chunked : defaultChunkBytes % setup.sectorSize = 0)
    (sectors : location.byteLength % setup.sectorSize = 0)
    (inside : index < chunkCount location.byteLength)
    (first :
      acceptsRead setup (location.fileOffset + 0 * defaultChunkBytes)
        (chunkAt operationId slot location.byteLength firstUserData 0) =
          true) :
    acceptsRead setup (location.fileOffset + index * defaultChunkBytes)
      (chunkAt operationId slot location.byteLength firstUserData index) =
        true := by
  unfold acceptsRead chunkAt at first ⊢
  simp only [Bool.and_eq_true, decide_eq_true_eq, Nat.zero_mul, Nat.add_zero]
    at first ⊢
  have chunkDvd := Nat.dvd_of_mod_eq_zero chunked
  have lengthDvd := Nat.dvd_of_mod_eq_zero sectors
  have offsetDvd := Nat.dvd_of_mod_eq_zero first.2
  have before : index * defaultChunkBytes < location.byteLength := by
    unfold chunkCount at inside
    have below := Nat.mul_le_of_le_div _ _ _
      (show index + 1 ≤ (location.byteLength + defaultChunkBytes - 1) /
        defaultChunkBytes from inside)
    unfold defaultChunkBytes at below ⊢
    omega
  refine ⟨⟨first.1.1, ⟨?_, ?_⟩, ?_⟩, ?_⟩
  · unfold defaultChunkBytes at before ⊢
    omega
  · unfold defaultChunkBytes
    omega
  · refine Nat.mod_eq_zero_of_dvd ?_
    rcases Nat.le_total defaultChunkBytes
      (location.byteLength - index * defaultChunkBytes) with less | more
    · rw [Nat.min_eq_left less]
      exact chunkDvd
    · rw [Nat.min_eq_right more]
      exact Nat.dvd_sub lengthDvd (Nat.dvd_mul_left_of_dvd chunkDvd index)
  · exact Nat.mod_eq_zero_of_dvd
      (Nat.dvd_add offsetDvd (Nat.dvd_mul_left_of_dvd chunkDvd index))

/-- The reads of a payload, under the numbers from `firstUserData` on. -/
def payloadReads
    (operationId slot : Nat)
    (location : PayloadLocation)
    (firstUserData : Nat) : List ReadChunk :=
  (List.range (chunkCount location.byteLength)).map
    (chunkAt operationId slot location.byteLength firstUserData)

/-- One turn of the loop of `submit_read_chunks`. -/
def submitChunk
    (setup : SupplySetup)
    (operationId slot : Nat)
    (location : PayloadLocation)
    (firstUserData index : Nat) : SupplyCall Unit :=
  submitRead setup (location.fileOffset + index * defaultChunkBytes)
    (chunkAt operationId slot location.byteLength firstUserData index)

/-- The loop over a payload's reads takes them all or none. -/
theorem submitChunks_whole
    (chunked : defaultChunkBytes % setup.sectorSize = 0)
    (whole : TakenWhole setup location supply.queued.length)
    (operationId slot firstUserData : Nat)
    (answers : List Answer) :
    (∃ error,
        forEach (submitChunk setup operationId slot location firstUserData)
          (List.range (chunkCount location.byteLength)) supply answers =
            (.error error, supply, answers)) ∨
      forEach (submitChunk setup operationId slot location firstUserData)
          (List.range (chunkCount location.byteLength)) supply answers =
        (.ok (),
          { supply with
            queued := supply.queued ++
              payloadReads operationId slot location firstUserData },
          answers) := by
  unfold TakenWhole at whole
  unfold payloadReads
  generalize bound : chunkCount location.byteLength = count at whole ⊢
  cases count with
  | zero =>
    refine Or.inr ?_
    rw [List.range_zero, List.map_nil, List.append_nil]
    rfl
  | succ more =>
    by_cases taken :
        acceptsRead setup (location.fileOffset + 0 * defaultChunkBytes)
            (chunkAt operationId slot location.byteLength firstUserData 0) =
              true ∧
          supply.queued.length < setup.sqEntries
    · refine Or.inr (submitReads_accepted _ _ _ supply answers ?_ ?_)
      · intro index listed
        have inside := List.mem_range.mp listed
        rcases whole with single | ⟨sectors, -⟩
        · obtain rfl : index = 0 := by omega
          exact taken.1
        · exact acceptsRead_of_first chunked sectors (bound ▸ inside) taken.1
      · rw [List.length_range]
        rcases whole with single | ⟨-, fits | full⟩ <;> omega
    · rw [not_and_or, Bool.not_eq_true] at taken
      obtain ⟨error, threw⟩ := submitRead_refused taken answers
      refine Or.inl ⟨error, ?_⟩
      rw [List.range_succ_eq_map]
      unfold forEach Call.andThen submitChunk
      rw [threw]

theorem submitReadChunks_whole
    (whole : TakenWhole setup location supply.queued.length)
    (operationId slot firstUserData : Nat)
    (answers : List Answer) :
    (∃ error,
        submitReadChunks setup operationId slot location firstUserData supply
          answers = (.error error, supply, answers)) ∨
      submitReadChunks setup operationId slot location firstUserData supply
          answers =
        (.ok (chunkCount location.byteLength),
          { supply with
            queued := supply.queued ++
              payloadReads operationId slot location firstUserData },
          answers) := by
  -- The kernel must not unfold the count of the reads, so the call is taken apart
  -- by rewriting alone.
  unfold submitReadChunks
  by_cases chunked : defaultChunkBytes % setup.sectorSize = 0
  · rw [bind_of_ok ((check_apply supply answers _ _).trans
      (if_pos (decide_eq_true chunked)))]
    rcases submitChunks_whole chunked whole operationId slot firstUserData
      answers with ⟨error, threw⟩ | taken
    · exact Or.inl ⟨error, Call.bind_of_error threw _⟩
    · exact Or.inr ((bind_of_ok taken _).trans
        (Call.ret_apply _ _ _))
  · refine Or.inl ⟨_, Call.bind_of_error
      ((check_apply supply answers _ _).trans (if_neg ?_)) _⟩
    simpa using chunked

/-! ## Starting a direct read -/

/-- The reads with more of them queued. -/
def Reads.queueing
    (reads : Reads)
    (chunks : List ReadChunk) : Reads :=
  { reads with
    queued := reads.queued ++ chunks
    nextDirectIoId := reads.nextDirectIoId + chunks.length }

/-- The reads that stand still. -/
def sameReads (reads : Reads) : Reads → Prop :=
  fun current => current = reads

theorem Working.queueing
    {reads : Reads}
    {operationId : Nat}
    {chunks : List ReadChunk}
    (working :
      Working setup (onReads (sameReads reads)) filling operationId slot
        supply)
    (claimed : supply.slots slot = .ioPending)
    (fills : filling.reads = reads.filling)
    (own :
      ∀ chunk ∈ chunks,
        chunk.operationId = operationId ∧ chunk.stagingIdx = slot) :
    Steady setup (onReads (sameReads (reads.queueing chunks)))
      { reads := (reads.queueing chunks).filling
        numbered := filling.numbered }
      { supply with
        queued := supply.queued ++ chunks
        nextDirectIoId := supply.nextDirectIoId + chunks.length } := by
  have same : supply.reads = reads := working.steady.framed
  refine ⟨working.steady.owned.of_same (Nat.le_refl _) rfl rfl rfl, ?_, ?_,
    working.steady.counted⟩
  · subst same
    rfl
  · rintro filled listed
    have older (chunk : ReadChunk) (outstanding : chunk ∈ reads.outstanding) :
        supply.Fills (chunk.operationId, chunk.stagingIdx) := by
      refine working.steady.fills _ ?_
      rw [fills]
      exact List.mem_map.mpr ⟨chunk, outstanding, rfl⟩
    obtain ⟨chunk, present, rfl⟩ := List.mem_map.mp listed
    simp only [Reads.outstanding, Reads.queueing, List.append_assoc,
      List.mem_append] at present
    rcases present with before | new | later
    · exact older chunk (List.mem_append_left _ before)
    · obtain ⟨rfl, rfl⟩ := own chunk new
      obtain ⟨transfer, found, staged, idx, -, -⟩ := working.bound
      obtain ⟨present, number⟩ := Supply.mem_of_find found
      exact ⟨claimed, transfer, present, number,
        PendingTransfer.mem_stagingSlots.mpr (Or.inl ⟨staged, idx.symm⟩)⟩
    · exact older chunk (List.mem_append_right _ later)

/-- The reads a direct read of the expert adds. -/
def directReads
    (setup : SupplySetup)
    (request : RequestReservation)
    (slot : Nat)
    (reads : Reads) : List ReadChunk :=
  payloadReads request.operationId slot (setup.locate request.globalExpertId)
    reads.nextDirectIoId

theorem length_directReads
    (reads : Reads) :
    (directReads setup request slot reads).length =
      chunkCount (setup.locate request.globalExpertId).byteLength := by
  simp [directReads, payloadReads]

theorem mem_directReads
    {reads : Reads}
    (listed : chunk ∈ directReads setup request slot reads) :
    chunk.operationId = request.operationId ∧
      chunk.stagingIdx = slot ∧
      reads.nextDirectIoId ≤ chunk.userData ∧
      chunk.userData < reads.nextDirectIoId +
        chunkCount (setup.locate request.globalExpertId).byteLength := by
  obtain ⟨index, inside, rfl⟩ := List.mem_map.mp listed
  have below := List.mem_range.mp inside
  exact ⟨rfl, rfl, Nat.le_add_right _ _, Nat.add_lt_add_left below _⟩

theorem startDirectRead_queueing
    {reads : Reads}
    (fills : filling.reads = reads.filling)
    (whole :
      TakenWhole setup (setup.locate request.globalExpertId)
        reads.queued.length) :
    Ensures
      (Entered setup (sameReads reads) filling request.operationId slot)
      (startDirectRead setup request slot)
      (fun count supply =>
        count = (directReads setup request slot reads).length ∧
          Steady setup
            (onReads (sameReads
              (reads.queueing (directReads setup request slot reads))))
            { reads :=
                (reads.queueing (directReads setup request slot reads)).filling
              numbered := filling.numbered }
            supply)
      (Stopped setup (onReads (sameReads reads)) filling
        request.operationId) := by
  refine .andThen (bindStaging_working.weaken
    (fun _ entered => entered.opened) (fun _ _ after => after)
    (fun _ stopped => stopped)) fun _ => ?_
  refine .andThen (.check fun _ _ working => working.stopped) fun _ => ?_
  refine .read fun current => ?_
  rintro supply answers ⟨⟨-, working⟩, rfl⟩
  have number : supply.nextDirectIoId = reads.nextDirectIoId :=
    congrArg Reads.nextDirectIoId working.steady.framed
  rw [number]
  have begun :
      Finished
        (fun (_ : Unit) after =>
          Working setup (onReads (sameReads reads)) filling
              request.operationId slot after ∧
            after.slots slot = .ioPending)
        (Stopped setup (onReads (sameReads reads)) filling request.operationId)
        (beginIo setup request.operationId slot supply answers) :=
    (transition_working .available .ioPending supply answers working).weaken
      (fun _ _ holds => holds) (fun _ working => working.stopped)
  refine begun.andThen fun _ => ?_
  rintro after rest ⟨claimed, pending⟩
  have same : after.reads = reads := claimed.steady.framed
  have room : TakenWhole setup (setup.locate request.globalExpertId)
      after.queued.length := by
    rw [show after.queued = reads.queued from congrArg Reads.queued same]
    exact whole
  rcases submitReadChunks_whole room request.operationId slot
    reads.nextDirectIoId rest with ⟨error, threw⟩ | taken
  · rw [Call.bind_of_error threw]
    exact claimed.stopped
  · rw [bind_of_ok taken]
    have counted : chunkCount
        (setup.locate request.globalExpertId).byteLength =
          (directReads setup request slot reads).length :=
      (length_directReads reads).symm
    rw [counted]
    refine ⟨rfl, ?_⟩
    exact claimed.queueing pending fills fun chunk listed =>
      ⟨(mem_directReads listed).1, (mem_directReads listed).2.1⟩

/-! ## Serving a reservation -/

/-- What a served entry is to the reads its request found. -/
def ServedReads
    (setup : SupplySetup)
    (request : RequestReservation)
    (slot : Nat)
    (reads : Reads)
    (filling : Filling)
    (pair : Supply × PayloadTransfer) : Prop :=
  (Steady setup (onReads (sameReads reads)) filling pair.1 ∧
      pair.2.ioPending = false ∧
      (pair.2.ioComplete = true →
        request.kind.starts = true ∧
          pair.2.operationId = request.operationId)) ∨
    (Steady setup
        (onReads (sameReads
          (reads.queueing (directReads setup request slot reads))))
        { reads :=
            (reads.queueing (directReads setup request slot reads)).filling
          numbered := filling.numbered }
        pair.1 ∧
      request.kind.starts = true ∧
      pair.2.operationId = request.operationId ∧
      pair.2.ioPending = true ∧
      pair.2.ioComplete = false ∧
      pair.2.ioUserData = reads.nextDirectIoId ∧
      pair.2.ioRequestCount = (directReads setup request slot reads).length)

/-- Moving the bytes of an entry that waits for nothing yet. -/
theorem moveBytes_served
    {reads : Reads}
    {state : PayloadTransfer}
    (fills : filling.reads = reads.filling)
    (whole :
      request.sourceTier = .coldNvme →
        setup.directIo = true →
          TakenWhole setup (setup.locate request.globalExpertId)
            reads.queued.length)
    (starts : request.kind.starts = true)
    (idle : state.ioPending = false ∧ state.ioComplete = false) :
    Ensures
      (fun pair : Supply × PayloadTransfer =>
        Entered setup (sameReads reads) filling request.operationId slot
            pair.1 ∧
          pair.2 = state.serving request)
      (moveBytes setup request slot)
      (fun _ => ServedReads setup request slot reads filling)
      (fun pair =>
        Stopped setup (onReads (sameReads reads)) filling request.operationId
          pair.1) := by
  -- The entry is not the supply's: a start that is no direct read leaves the reads.
  have quietly
      {call : SupplyCall Unit}
      (ensures :
        Ensures
          (Entered setup (sameReads reads) filling request.operationId slot)
          call
          (fun _ => Steady setup (onReads (sameReads reads)) filling)
          (Stopped setup (onReads (sameReads reads)) filling
            request.operationId)) :
      Ensures
        (fun pair : Supply × PayloadTransfer =>
          Entered setup (sameReads reads) filling request.operationId slot
              pair.1 ∧
            pair.2 = state.serving request)
        (Call.onFirst call)
        (fun _ pair =>
          Steady setup (onReads (sameReads reads)) filling pair.1 ∧
            pair.2 = state.serving request)
        (fun pair =>
          Stopped setup (onReads (sameReads reads)) filling
            request.operationId pair.1) := by
    rintro ⟨supply, entry⟩ answers ⟨entered, rfl⟩
    exact ((ensures supply answers entered).onFirst _).weaken
      (fun _ _ holds => holds) (fun _ holds => holds.1)
  refine .branch (fun direct => ?_) (fun _ => .branch (fun _ => ?_)
    (fun _ => ?_))
  · refine .read fun current => ?_
    rintro ⟨supply, entry⟩ answers ⟨⟨entered, rfl⟩, rfl⟩
    have number : supply.nextDirectIoId = reads.nextDirectIoId :=
      congrArg Reads.nextDirectIoId entered.opened.steady.framed
    have queued :=
      (startDirectRead_queueing fills (whole direct.1 direct.2) supply answers
        entered).onFirst (state.serving request)
    refine (queued.weaken (fun _ _ holds => holds)
      (fun _ holds => holds.1)).andThen fun count => .write ?_
    rintro ⟨after, changed⟩ ⟨⟨rfl, steady⟩, rfl⟩
    exact Or.inr ⟨steady, starts, rfl, rfl, idle.2, number, rfl⟩
  · refine .andThen (quietly stageWarm_steady) fun _ => .write ?_
    rintro ⟨after, changed⟩ ⟨steady, rfl⟩
    exact Or.inl ⟨steady, idle.1, fun _ => ⟨starts, rfl⟩⟩
  · refine .andThen (quietly ?_) fun _ => .write ?_
    · refine .branch (fun _ => .branch (fun _ => ?_) (fun _ => ?_))
        (fun _ => ?_)
      · exact uploadPinnedWarm_steady
      · exact uploadStagedWarm_steady
      · exact uploadMapped_steady
    · rintro ⟨after, changed⟩ ⟨steady, rfl⟩
      refine Or.inl ⟨steady, idle.1, fun complete => ?_⟩
      exact absurd (idle.2.symm.trans complete) (by decide)

theorem Following.quiet_of_absent
    {frame : Reads → Holdings → Prop}
    {entries : List PayloadTransfer}
    {operationId : Nat}
    (following : Following setup frame entries supply)
    (absent : supply.find operationId = none) :
    supply.reads.Quiet operationId := by
  intro chunk outstanding own
  obtain ⟨-, owner, listed, number, -⟩ :=
    following.steady.fills (chunk.operationId, chunk.stagingIdx)
      (List.mem_map.mpr ⟨chunk, outstanding, rfl⟩)
  have missing := List.find?_eq_none.mp absent owner listed
  exact missing (by simpa using number.trans own)

namespace Reads

variable
    {reads : Reads}
    {chunks : List ReadChunk}

theorem mem_outstanding_queueing
    {chunk : ReadChunk} :
    chunk ∈ (reads.queueing chunks).outstanding ↔
      chunk ∈ reads.outstanding ∨ chunk ∈ chunks := by
  simp only [outstanding, queueing, List.mem_append]
  tauto

theorem items_queueing :
    (reads.queueing chunks).items.Perm
      ((chunks.map fun chunk => (chunk.userData, chunk.operationId)) ++
        reads.items) := by
  simp only [items, outstanding, queueing, List.map_append, List.append_assoc]
  exact List.perm_append_comm_assoc _ _ _

theorem mem_items_queueing
    {item : Nat × Nat} :
    item ∈ (reads.queueing chunks).items ↔
      item ∈ reads.items ∨
        ∃ chunk ∈ chunks, (chunk.userData, chunk.operationId) = item := by
  rw [items_queueing.mem_iff, List.mem_append, List.mem_map]
  exact or_comm

end Reads

section Queueing

variable
    {reads : Reads}
    {state : PayloadTransfer}

/-- The new reads take numbers no read has. -/
theorem Reads.Sound.queueing
    (sound : reads.Sound) :
    (reads.queueing (directReads setup request slot reads)).Sound := by
  have numbers :
      (directReads setup request slot reads).map (fun chunk => chunk.userData) =
        (List.range (chunkCount
          (setup.locate request.globalExpertId).byteLength)).map
            (fun index => reads.nextDirectIoId + index) := by
    unfold directReads payloadReads
    rw [List.map_map]
    rfl
  refine ⟨?_, ?_, sound.unmixed⟩
  · rw [(Reads.items_queueing.map Prod.fst).nodup_iff, List.map_append,
      List.map_map]
    refine List.Nodup.append ?_ sound.distinct ?_
    · change ((directReads setup request slot reads).map
        fun chunk => chunk.userData).Nodup
      rw [numbers]
      exact List.nodup_range.map fun _ _ same => Nat.add_left_cancel same
    · intro number new old
      obtain ⟨chunk, listed, rfl⟩ := List.mem_map.mp new
      obtain ⟨item, present, same⟩ := List.mem_map.mp old
      have below := sound.numbered item present
      have above := (mem_directReads listed).2.2.1
      simp only [Function.comp_apply] at same
      omega
  · intro item listed
    change item.1 < reads.nextDirectIoId + _
    rw [length_directReads]
    rcases Reads.mem_items_queueing.mp listed with old | ⟨chunk, new, rfl⟩
    · have below := sound.numbered item old
      omega
    · exact (mem_directReads new).2.2.2

theorem Followed.queueing
    (followed : Followed reads state)
    (other :
      state.reading = true → state.operationId ≠ request.operationId) :
    Followed (reads.queueing (directReads setup request slot reads)) state := by
  have reading (flag : state.ioPending = true ∨ state.ioComplete = true) :
      state.reading = true := by
    simpa [PayloadTransfer.reading] using flag
  refine ⟨fun complete chunk listed => ?_, fun pending chunk listed own => ?_,
    fun pending item listed lower upper => ?_, fun pending => ?_⟩
  · rcases Reads.mem_outstanding_queueing.mp listed with old | new
    · exact followed.complete complete chunk old
    · rw [(mem_directReads new).1]
      exact (other (reading (Or.inr complete))).symm
  · rcases Reads.mem_outstanding_queueing.mp listed with old | new
    · exact followed.listed pending chunk old own
    · refine absurd ?_ (other (reading (Or.inl pending)))
      rw [← own, (mem_directReads new).1]
  · rcases Reads.mem_items_queueing.mp listed with old | ⟨chunk, new, rfl⟩
    · exact followed.own pending item old lower upper
    · have above := (mem_directReads new).2.2.1
      have below := followed.numbered pending
      simp only at upper
      omega
  · have below := followed.numbered pending
    change _ ≤ reads.nextDirectIoId + _
    omega

/-- The entry that the new reads were queued for. -/
theorem Followed.of_queueing
    (sound : reads.Sound)
    (quiet : reads.Quiet request.operationId)
    (number : state.operationId = request.operationId)
    (landed : state.ioComplete = false)
    (first : state.ioUserData = reads.nextDirectIoId)
    (count :
      state.ioRequestCount = (directReads setup request slot reads).length) :
    Followed (reads.queueing (directReads setup request slot reads)) state := by
  refine ⟨fun complete => ?_, fun _ chunk listed own => ?_,
    fun _ item listed lower _ => ?_, fun _ => ?_⟩
  · exact absurd (landed.symm.trans complete) (by decide)
  · rcases Reads.mem_outstanding_queueing.mp listed with old | new
    · exact absurd (own.trans number) (quiet chunk old)
    · rw [first, count, length_directReads]
      exact ⟨(mem_directReads new).2.2.1, (mem_directReads new).2.2.2⟩
  · rcases Reads.mem_items_queueing.mp listed with old | ⟨chunk, new, rfl⟩
    · have below := sound.numbered item old
      omega
    · exact (mem_directReads new).1.trans number.symm
  · rw [first, count]
    exact Nat.le_refl _

end Queueing

/-- The reads followed, whatever the records name. -/
abbrev ReadsFollowed
    (setup : SupplySetup)
    (entries : List PayloadTransfer)
    (supply : Supply) : Prop :=
  Following setup (onReads anyReads) entries supply

/-- What a served entry leaves: the reads followed, and only newer ones queued. -/
structure ServedFollowing
    (setup : SupplySetup)
    (entries : List PayloadTransfer)
    (floor : Nat)
    (before : Supply)
    (pair : Supply × PayloadTransfer) : Prop where
  following : ReadsFollowed setup (pair.2 :: entries) pair.1
  newer :
    ∀ chunk ∈ pair.1.queued,
      chunk ∈ before.queued ∨ floor ≤ chunk.operationId

theorem ServedReads.following
    {entries : List PayloadTransfer}
    {floor : Nat}
    {supply : Supply}
    {pair : Supply × PayloadTransfer}
    (served :
      ServedReads setup request slot supply.reads supply.standing pair)
    (following : ReadsFollowed setup entries supply)
    (older :
      ∀ state ∈ entries, state.reading = true → state.operationId < floor)
    (issued :
      request.kind.starts = true →
        Issued request supply ∧ floor ≤ request.operationId) :
    ServedFollowing setup entries floor supply pair := by
  obtain ⟨after, state⟩ := pair
  rcases served with ⟨steady, idle, complete⟩ |
    ⟨steady, starts, number, pending, landed, first, count⟩
  · have same : after.reads = supply.reads := steady.framed
    have kept := following.unpin steady same trivial
    refine ⟨kept.cons ⟨fun done => ?_, ?_, ?_, ?_⟩ fun reading => ?_, ?_⟩
    · obtain ⟨starts, number⟩ := complete done
      rw [same, number]
      exact following.quiet_of_absent (issued starts).1.absent
    · exact fun pending => absurd (idle.symm.trans pending) (by decide)
    · exact fun pending => absurd (idle.symm.trans pending) (by decide)
    · exact fun pending => absurd (idle.symm.trans pending) (by decide)
    · have waits : state.ioPending = false := idle
      have done : state.ioComplete = true := by
        simpa [PayloadTransfer.reading, waits] using reading
      obtain ⟨starts, number⟩ := complete done
      rw [number]
      exact Nat.lt_of_lt_of_le (issued starts).1.counted steady.counted
    · intro chunk listed
      have queue : after.queued = supply.queued := congrArg Reads.queued same
      exact Or.inl (queue ▸ listed)
  · have same : after.reads =
        supply.reads.queueing (directReads setup request slot supply.reads) :=
      steady.framed
    obtain ⟨fresh, above⟩ := issued starts
    have quiet := following.quiet_of_absent fresh.absent
    have kept : ReadsFollowed setup entries after := by
      refine ⟨⟨steady.owned, trivial, ?_, Nat.zero_le _⟩, ?_, ?_, ?_⟩
      · rw [same]
        exact steady.fills
      · rw [same]
        exact following.sound.queueing
      · intro other listed
        rw [same]
        refine (following.followed other listed).queueing fun reading => ?_
        have below := older other listed reading
        omega
      · intro other listed reading
        exact Nat.lt_of_lt_of_le (following.issued other listed reading)
          steady.counted
    refine ⟨kept.cons ?_ fun _ => ?_, ?_⟩
    · rw [same]
      exact .of_queueing following.sound quiet number landed first count
    · rw [number]
      exact Nat.lt_of_lt_of_le fresh.counted steady.counted
    · intro chunk listed
      have queue :
          after.queued =
            supply.queued ++ directReads setup request slot supply.reads :=
        congrArg Reads.queued same
      rw [queue] at listed
      rcases List.mem_append.mp listed with old | new
      · exact Or.inl old
      · rw [(mem_directReads new).1]
        exact Or.inr above

/-- What `dispatch` does with a reservation. -/
theorem serveReservation_following
    {entries : List PayloadTransfer}
    {floor : Nat}
    {supply : Supply}
    {answers : List Answer}
    (payload : PayloadRequest)
    (following : ReadsFollowed setup entries supply)
    (older :
      ∀ state ∈ entries, state.reading = true → state.operationId < floor)
    (issued :
      request.kind.starts = true →
        Issued request supply ∧ floor ≤ request.operationId)
    (meets :
      request.kind.starts = true →
        StartMeets setup payload request supply answers)
    (whole :
      request.kind.starts = true →
        request.sourceTier = .coldNvme →
          setup.directIo = true →
            TakenWhole setup (setup.locate request.globalExpertId)
              supply.queued.length)
    (state : PayloadTransfer)
    (idle : state.ioPending = false ∧ state.ioComplete = false) :
    Finished
      (fun _ => ServedFollowing setup entries floor supply)
      (fun pair =>
        ReadsFollowed setup entries pair.1 ∧
          pair.1.queued = supply.queued)
      (serveReservation setup payload request (supply, state) answers) := by
  have steady :
      Steady setup (onReads (sameReads supply.reads)) supply.standing supply :=
    ⟨following.steady.owned, rfl, following.steady.fills, Nat.le_refl _⟩
  have served :
      Finished
        (fun _ pair =>
          ServedReads setup request payload.stagingIdx supply.reads
            supply.standing pair)
        (fun pair =>
          Steady setup (onReads (sameReads supply.reads)) supply.standing
            pair.1)
        (serveReservation setup payload request (supply, state) answers) := by
    refine serveReservation_ensures payload steady
      (fun starts => (issued starts).1) meets state ?_ fun starts =>
        moveBytes_served rfl (whole starts) starts idle
    intro after changed kept pending complete
    refine Or.inl ⟨kept, pending.trans idle.1, fun done => ?_⟩
    exact absurd (idle.2.symm.trans (complete.symm.trans done)) (by decide)
  refine served.weaken ?_ ?_
  · exact fun _ pair outcome => outcome.following following older issued
  · rintro ⟨after, changed⟩ kept
    exact ⟨following.unpin kept kept.framed trivial,
      congrArg Reads.queued kept.framed⟩

/-! ## The request loop -/

/-- What a request of `dispatch` needs of the reader when it starts a read. -/
def ReadRequestMeets
    (setup : SupplySetup)
    (arguments : DispatchArguments)
    (item : Nat × PayloadRequest)
    (pair : Supply × Dispatching)
    (answers : List Answer) : Prop :=
  match Call.whileAnswered
      (reserveLoop setup arguments item.2.globalExpertId) pair.1 answers with
  | (.error _, _, _) => True
  | (.ok request, after, _) =>
    request.kind.starts = true →
      request.sourceTier = .coldNvme →
        setup.directIo = true →
          TakenWhole setup (setup.locate request.globalExpertId)
            after.queued.length

instance
    (arguments : DispatchArguments)
    (item : Nat × PayloadRequest)
    (pair : Supply × Dispatching)
    (answers : List Answer) :
    Decidable (ReadRequestMeets setup arguments item pair answers) :=
  match reserved : Call.whileAnswered
      (reserveLoop setup arguments item.2.globalExpertId) pair.1 answers with
  | (.error _, _, _) =>
    .isTrue (by unfold ReadRequestMeets; rw [reserved]; trivial)
  | (.ok request, after, _) =>
    decidable_of_iff
      (request.kind.starts = true →
        request.sourceTier = .coldNvme →
          setup.directIo = true →
            TakenWhole setup (setup.locate request.globalExpertId)
              after.queued.length)
      (by unfold ReadRequestMeets; rw [reserved])

section Loop

variable {others : List PayloadTransfer}

/-- No queued read is one an entry of another batch waits for. -/
def Unqueued
    (others : List PayloadTransfer)
    (supply : Supply) : Prop :=
  ∀ state ∈ others,
    state.ioPending = true →
      ∀ chunk ∈ supply.queued, chunk.operationId ≠ state.operationId

/-- The reads followed for the batch being filled and for all others. -/
structure Filling.Loop
    (setup : SupplySetup)
    (others transfers : List PayloadTransfer)
    (supply : Supply) : Prop where
  following : ReadsFollowed setup (transfers ++ others) supply
  unqueued : Unqueued others supply

/-- The entries a loop has not come to wait for nothing. -/
def Untouched
    (done : List (Nat × PayloadRequest))
    (transfers : List PayloadTransfer) : Prop :=
  ∀ index,
    index ∉ done.map Prod.fst →
      ∀ state,
        transfers[index]? = some state →
          state.ioPending = false ∧ state.ioComplete = false

theorem Unqueued.newer
    {before after : Supply}
    {floor : Nat}
    (unqueued : Unqueued others before)
    (older :
      ∀ state ∈ others, state.reading = true → state.operationId < floor)
    (newer :
      ∀ chunk ∈ after.queued,
        chunk ∈ before.queued ∨ floor ≤ chunk.operationId) :
    Unqueued others after := by
  intro state listed pending chunk queued
  rcases newer chunk queued with old | above
  · exact unqueued state listed pending chunk old
  · have below := older state listed
      (by simp [PayloadTransfer.reading, pending])
    omega

theorem dispatchRequest_following
    (arguments : DispatchArguments)
    (item : Nat × PayloadRequest)
    (supply : Supply)
    (dispatching : Dispatching)
    (answers : List Answer)
    (meets : RequestMeets setup arguments item (supply, dispatching) answers)
    (readMeets :
      ReadRequestMeets setup arguments item (supply, dispatching) answers)
    (loop : Filling.Loop setup others dispatching.transfers supply)
    (idle :
      ∀ state,
        dispatching.transfers[item.1]? = some state →
          state.ioPending = false ∧ state.ioComplete = false) :
    Finished
      (fun _ pair =>
        Filling.Loop setup others pair.2.transfers pair.1 ∧
          (pair.2.transfers = dispatching.transfers ∨
            ∃ changed,
              pair.2.transfers =
                dispatching.transfers.set item.1 changed))
      (fun pair => Filling.Loop setup others [] pair.1)
      (dispatchRequest setup arguments item (supply, dispatching) answers) := by
  have following := loop.following
  have steady :
      Steady setup (onReads (sameReads supply.reads)) supply.standing supply :=
    ⟨following.steady.owned, rfl, following.steady.fills, Nat.le_refl _⟩
  have older (state : PayloadTransfer)
      (listed : state ∈ dispatching.transfers ++ others)
      (reading : state.reading = true) :
      state.operationId < supply.registry.nextOperationId :=
    following.issued state listed reading
  have reserved :=
    Call.Ensures.whileAnswered
      (reserveLoop_issued arguments item.2.globalExpertId)
      supply answers steady
  unfold RequestMeets at meets
  unfold ReadRequestMeets at readMeets
  unfold dispatchRequest
  rw [bind_apply, Call.onFirst_apply]
  generalize Call.whileAnswered
    (reserveLoop setup arguments item.2.globalExpertId) supply answers =
      outcome at reserved meets readMeets ⊢
  rcases outcome with ⟨error | request, after, rest⟩
  · have kept := following.unpin reserved reserved.framed trivial
    refine ⟨kept.among fun _ listed => List.mem_append_right _ listed, ?_⟩
    intro state listed pending chunk queued
    have queue : after.queued = supply.queued :=
      congrArg Reads.queued reserved.framed
    exact loop.unqueued state listed pending chunk (queue ▸ queued)
  · obtain ⟨steadyAfter, issued⟩ := reserved
    have kept := following.unpin steadyAfter steadyAfter.framed trivial
    have queue : after.queued = supply.queued :=
      congrArg Reads.queued steadyAfter.framed
    have unqueued : Unqueued others after := by
      intro state listed pending chunk queued
      exact loop.unqueued state listed pending chunk (queue ▸ queued)
    simp only [bind_apply, write_apply]
    unfold onEntry Call.onPart
    dsimp only
    cases held : dispatching.transfers[item.1]? with
    | none => exact ⟨⟨kept, unqueued⟩, Or.inl rfl⟩
    | some state =>
      have served := serveReservation_following item.2 kept older issued
        meets readMeets state (idle state held)
      dsimp only
      generalize serveReservation setup item.2 request (after, state) rest =
        outcome at served ⊢
      rcases outcome with ⟨error | value, ⟨last, changed⟩, left⟩
      · refine ⟨served.1.among fun _ listed => List.mem_append_right _ listed,
          ?_⟩
        intro other listed pending chunk queued
        exact unqueued other listed pending chunk (served.2 ▸ queued)
      · refine ⟨⟨served.following.among ?_, unqueued.newer
          (fun other listed => older other (List.mem_append_right _ listed))
          served.newer⟩, Or.inr ⟨changed, rfl⟩⟩
        intro other listed
        rcases List.mem_append.mp listed with own | outside
        · rcases List.mem_or_eq_of_mem_set own with before | rfl
          · exact List.mem_cons_of_mem _ (List.mem_append_left _ before)
          · exact List.mem_cons_self
        · exact List.mem_cons_of_mem _ (List.mem_append_right _ outside)

/-- `dispatch` comes to every request once. -/
theorem requestOrder_nodup
    (registry : ExpertRegistry)
    (requests : List PayloadRequest) :
    ((requestOrder registry requests).map Prod.fst).Nodup := by
  have numbered :
      (((List.range requests.length).zip requests).map Prod.fst).Nodup := by
    rw [List.map_fst_zip (by simp)]
    exact List.nodup_range
  have ranked (rank : Nat) :
      ((((List.range requests.length).zip requests).filter fun item =>
        reservationPriority registry item.2 = rank).map Prod.fst).Nodup :=
    numbered.sublist (List.filter_sublist.map _)
  have apart (rank other : Nat) (different : rank ≠ other) :
      ∀ index ∈ (((List.range requests.length).zip requests).filter fun item =>
          reservationPriority registry item.2 = rank).map Prod.fst,
        index ∉ (((List.range requests.length).zip requests).filter fun item =>
          reservationPriority registry item.2 = other).map Prod.fst := by
    intro index here there
    obtain ⟨item, listed, rfl⟩ := List.mem_map.mp here
    obtain ⟨twin, twinListed, same⟩ := List.mem_map.mp there
    rw [List.mem_filter] at listed twinListed
    have equal : twin = item :=
      List.inj_on_of_nodup_map numbered twinListed.1 listed.1 same
    subst equal
    have first : reservationPriority registry twin.2 = rank := by
      simpa using listed.2
    have second : reservationPriority registry twin.2 = other := by
      simpa using twinListed.2
    exact different (first.symm.trans second)
  unfold requestOrder
  simp only [List.map_append]
  refine List.Nodup.append (List.Nodup.append (ranked 0) (ranked 1) ?_)
    (ranked 2) ?_
  · exact apart 0 1 (by decide)
  · intro index listed
    rcases List.mem_append.mp listed with zero | one
    · exact apart 0 2 (by decide) index zero
    · exact apart 1 2 (by decide) index one

theorem dispatchRequests_following
    (arguments : DispatchArguments)
    (items : List (Nat × PayloadRequest))
    (once : (items.map Prod.fst).Nodup)
    (supply : Supply)
    (dispatching : Dispatching)
    (answers : List Answer)
    (along :
      Along
        (fun item pair answers =>
          RequestMeets setup arguments item pair answers ∧
            ReadRequestMeets setup arguments item pair answers)
        (dispatchRequest setup arguments) items (supply, dispatching) answers)
    (loop : Filling.Loop setup others dispatching.transfers supply)
    (untouched : Untouched [] dispatching.transfers) :
    Finished
      (fun _ pair => Filling.Loop setup others pair.2.transfers pair.1)
      (fun pair => Filling.Loop setup others [] pair.1)
      (forEach (dispatchRequest setup arguments) items
        (supply, dispatching) answers) := by
  let Keeps (done : List (Nat × PayloadRequest))
      (pair : Supply × Dispatching) : Prop :=
    Filling.Loop setup others pair.2.transfers pair.1 ∧
      Untouched done pair.2.transfers
  have turn (done : List (Nat × PayloadRequest)) (item : Nat × PayloadRequest)
      (rest : List (Nat × PayloadRequest)) (pair : Supply × Dispatching)
      (answers : List Answer) (shape : items = done ++ item :: rest)
      (meets :
        RequestMeets setup arguments item pair answers ∧
          ReadRequestMeets setup arguments item pair answers)
      (keeps : Keeps done pair) :
      Finished (fun _ => Keeps (done ++ [item]))
        (fun pair => Filling.Loop setup others [] pair.1)
        (dispatchRequest setup arguments item pair answers) := by
    obtain ⟨current, filled⟩ := pair
    have unseen : item.1 ∉ done.map Prod.fst := by
      rw [shape, List.map_append, List.map_cons] at once
      exact fun seen => (List.nodup_append.mp once).2.2 item.1 seen item.1
        List.mem_cons_self rfl
    have finished := dispatchRequest_following arguments item current filled
      answers meets.1 meets.2 keeps.1 (keeps.2 item.1 unseen)
    refine finished.weaken ?_ fun _ loop => loop
    rintro _ ⟨after, changed⟩ ⟨afterLoop, touches⟩
    refine ⟨afterLoop, fun index outside state held => ?_⟩
    simp only [List.map_append, List.map_cons, List.map_nil, List.mem_append,
      List.mem_singleton, not_or] at outside
    refine keeps.2 index outside.1 state ?_
    rcases touches with same | ⟨entry, same⟩
    · exact same ▸ held
    · have set : changed.transfers = filled.transfers.set item.1 entry := same
      change changed.transfers[index]? = some state at held
      rw [set, List.getElem?_set_ne (Ne.symm outside.2)] at held
      exact held
  exact (Call.Ensures.forEach_turns items turn (supply, dispatching) answers
    along ⟨loop, untouched⟩).weaken (fun _ _ keeps => keeps.1)
      (fun _ loop => loop)

end Loop

/-! ## Handing the queue to the ring -/

/-- Whether `io_uring_enter` takes reads. -/
def Answer.entersReads (answer : Answer) : Bool :=
  answer ≠ .ringFailed && answer ≠ .taken 0

theorem submitPendingReads_following
    {entries : List PayloadTransfer}
    (turns : Nat)
    (supply : Supply)
    (answers : List Answer)
    (following : ReadsFollowed setup entries supply)
    (enough : supply.queued.length ≤ turns)
    (taken : ∀ answer ∈ answers, answer.entersReads = true) :
    Finished
      (fun _ after => ReadsFollowed setup entries after ∧ after.queued = [])
      (fun _ => False)
      (submitPendingReads turns supply answers) := by
  have entered (supply : Supply) (count : Nat)
      (following : ReadsFollowed setup entries supply) :
      ReadsFollowed setup entries (supply.enter count) :=
    following.drains (.enter supply count) trivial (supply.enter_drains count)
  induction turns generalizing supply answers with
  | zero => exact ⟨following, List.length_eq_zero_iff.mp (by omega)⟩
  | succ turns ih =>
    unfold submitPendingReads
    rw [bind_apply, read_apply]
    dsimp only
    by_cases empty : supply.queued = []
    · rw [if_pos empty]
      exact ⟨following, empty⟩
    · rw [if_neg empty, bind_apply, Call.ask_apply]
      dsimp only
      have first : (answers.headD .ready).entersReads = true := by
        cases answers with
        | nil => rfl
        | cons answer rest => exact taken answer List.mem_cons_self
      have later (answer : Answer) (listed : answer ∈ answers.tail) :
          answer.entersReads = true :=
        taken answer ((List.tail_sublist _).subset listed)
      have whole :
          ReadsFollowed setup entries
              (supply.enter supply.queued.length) ∧
            (supply.enter supply.queued.length).queued = [] :=
        ⟨entered supply _ following, List.drop_length⟩
      cases answer : answers.headD .ready with
      | ringFailed =>
        rw [answer] at first
        contradiction
      | taken count =>
        cases count with
        | zero =>
          rw [answer] at first
          contradiction
        | succ count =>
          dsimp only
          rw [bind_apply, write_apply]
          refine ih _ answers.tail
            (entered supply _ following) ?_ later
          change (supply.queued.drop (count + 1)).length ≤ turns
          rw [List.length_drop]
          omega
      | ready => exact whole
      | notReady => exact whole
      | failed => exact whole
      | completes index result => exact whole

/-! ## The whole call -/

/-- What a `dispatch` needs of the reader and the ring. -/
def ReadDispatchMeets
    (setup : SupplySetup)
    (arguments : DispatchArguments)
    (pair : Supply × Dispatching)
    (answers : List Answer) : Prop :=
  Along (ReadRequestMeets setup arguments)
      (dispatchRequest setup arguments)
      (requestOrder pair.1.registry arguments.requests) pair answers ∧
    match forEach (dispatchRequest setup arguments)
        (requestOrder pair.1.registry arguments.requests) pair answers with
    | (.ok (), (_, dispatching), rest) =>
      dispatching.transfers.any PayloadTransfer.ioPending = true →
        ∀ answer ∈ rest, answer.entersReads = true
    | (.error _, _, _) => True

instance
    (arguments : DispatchArguments)
    (pair : Supply × Dispatching)
    (answers : List Answer) :
    Decidable (ReadDispatchMeets setup arguments pair answers) :=
  have : Decidable
      (match forEach (dispatchRequest setup arguments)
          (requestOrder pair.1.registry arguments.requests) pair answers with
      | (.ok (), (_, dispatching), rest) =>
        dispatching.transfers.any PayloadTransfer.ioPending = true →
          ∀ answer ∈ rest, answer.entersReads = true
      | (.error _, _, _) => True) :=
    match forEach (dispatchRequest setup arguments)
        (requestOrder pair.1.registry arguments.requests) pair answers with
    | (.ok (), (_, _), _) => inferInstanceAs (Decidable (_ → _))
    | (.error _, _, _) => .isTrue trivial
  inferInstanceAs (Decidable (_ ∧ _))

theorem dispatchInto_following
    {others : List PayloadTransfer}
    (arguments : DispatchArguments)
    (supply : Supply)
    (dispatching : Dispatching)
    (answers : List Answer)
    (meets : DispatchMeets setup arguments (supply, dispatching) answers)
    (readMeets :
      ReadDispatchMeets setup arguments (supply, dispatching) answers)
    (loop : Filling.Loop setup others dispatching.transfers supply)
    (untouched : Untouched [] dispatching.transfers) :
    Finished
      (fun _ pair =>
        ReadsFollowed setup (pair.2.transfers ++ others) pair.1 ∧
          Unqueued (pair.2.transfers ++ others) pair.1)
      (fun pair => Filling.Loop setup others [] pair.1)
      (dispatchInto setup arguments (supply, dispatching) answers) := by
  have looped := dispatchRequests_following arguments _
    (requestOrder_nodup supply.registry arguments.requests) supply dispatching
    answers (Call.Along.and meets readMeets.1) loop untouched
  have ring := readMeets.2
  unfold dispatchInto
  rw [bind_apply, read_apply]
  dsimp only
  rw [bind_apply]
  generalize forEach (dispatchRequest setup arguments)
    (requestOrder supply.registry arguments.requests) (supply, dispatching)
      answers = outcome at looped ring ⊢
  rcases outcome with ⟨error | value, ⟨last, filled⟩, rest⟩
  · exact looped
  · have following : ReadsFollowed setup (filled.transfers ++ others) last :=
      looped.following
    dsimp only
    rw [bind_apply, read_apply]
    dsimp only
    unfold submitBatch
    rw [Call.onFirst_apply, bind_apply, read_apply]
    dsimp only
    cases waits : filled.transfers.any PayloadTransfer.ioPending with
    | false =>
      refine ⟨following, fun state listed pending => ?_⟩
      rcases List.mem_append.mp listed with own | outside
      · have none := List.any_eq_false.mp waits state own
        exact absurd pending none
      · exact looped.unqueued state outside pending
    | true =>
      have submitted := submitPendingReads_following last.queued.length last
        rest following (Nat.le_refl _) (ring waits)
      simp only [if_true]
      unfold Call.catching
      generalize submitPendingReads last.queued.length last rest =
        outcome at submitted ⊢
      rcases outcome with ⟨error | value, after, left⟩
      · exact submitted.elim
      · refine ⟨submitted.1, fun state _ _ chunk listed => ?_⟩
        have empty : after.queued = [] := submitted.2
        rw [empty] at listed
        contradiction

end Aeon.Transport
