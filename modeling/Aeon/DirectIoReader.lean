import Aeon.StagingArena
import Mathlib.Algebra.Group.Nat.Defs

namespace Aeon.Transport

open Call (ask check read ret throwing write)

/-!
# The direct reads

`DirectIOReader` queues an expert's payload as several reads, hands the queue to
the ring with `io_uring_enter`, and takes the completions the drive posts, in
whatever order they come.  The completion store that the pipeline keeps beside it
is an `unordered_map` from the user data of a read to its completion.
-/

/-- `DEFAULT_CHUNK_BYTES`. -/
def defaultChunkBytes : Nat :=
  4 * 1024 * 1024

/-- How many reads `submit_read_chunks` makes of a payload. -/
def chunkCount (bytes : Nat) : Nat :=
  (bytes + defaultChunkBytes - 1) / defaultChunkBytes

/-- `validate_request`, for a descriptor that `supports_direct_io` accepted. -/
def validateRequest
    (setup : SupplySetup)
    (slot bytes fileOffset : Nat) : SupplyCall Unit := do
  check (setup.slotAligned slot)
    (.invalidArgument
      "DirectIOReader: destination buffer is not sector aligned")
  check
    (bytes ≠ 0 && bytes < 2 ^ 32 && bytes % setup.sectorSize = 0)
    (.invalidArgument
      "DirectIOReader: read length must be a non-zero sector multiple")
  check (fileOffset % setup.sectorSize = 0)
    (.invalidArgument "DirectIOReader: file offset is not sector aligned")

/-- `submit_read`. -/
def submitRead
    (setup : SupplySetup)
    (fileOffset : Nat)
    (chunk : ReadChunk) : SupplyCall Unit := do
  validateRequest setup chunk.stagingIdx chunk.length fileOffset
  let supply ← read
  check (supply.queued.length < setup.sqEntries)
    (.runtimeError
      "DirectIOReader: submission queue is full; submit pending reads first")
  write fun supply =>
    { supply with queued := supply.queued ++ [chunk] }

/-- The read of one part of a payload. -/
def chunkAt
    (operationId slot bytes firstUserData index : Nat) : ReadChunk :=
  { userData := firstUserData + index
    stagingIdx := slot
    length := min defaultChunkBytes (bytes - index * defaultChunkBytes)
    operationId := operationId }

/-- `submit_read_chunks`, with its default chunk length. -/
def submitReadChunks
    (setup : SupplySetup)
    (operationId slot : Nat)
    (location : PayloadLocation)
    (firstUserData : Nat) : SupplyCall Nat := do
  check (defaultChunkBytes % setup.sectorSize = 0)
    (.invalidArgument
      "DirectIOReader: chunk length must be a non-zero sector multiple")
  Call.forEach
    (fun index =>
      submitRead setup (location.fileOffset + index * defaultChunkBytes)
        (chunkAt operationId slot location.byteLength firstUserData index))
    (List.range (chunkCount location.byteLength))
  ret (chunkCount location.byteLength)

/-- The first `count` reads of the queue go to the drive. -/
def Supply.enter
    (supply : Supply)
    (count : Nat) : Supply :=
  { supply with
    queued := supply.queued.drop count
    inFlight := supply.inFlight ++ supply.queued.take count }

/--
`submit_pending_reads`, for as many turns of its loop as there are reads queued.
An answer that is not a count takes the whole queue.
-/
def submitPendingReads : Nat → SupplyCall Unit
  | 0 => ret ()
  | turns + 1 => do
      let supply ← read
      if supply.queued = [] then
        ret ()
      else
        match ← ask .ready with
        | .ringFailed =>
          throwing
            (.runtimeError "DirectIOReader: io_uring_enter submit failed")
        | .taken 0 =>
          throwing
            (.runtimeError
              "DirectIOReader: io_uring_enter submitted zero requests")
        | .taken (count + 1) => do
            write fun supply => supply.enter (count + 1)
            submitPendingReads turns
        | _ =>
          write fun supply => supply.enter supply.queued.length

/-! ## Completions -/

/-- The completion of a read that is in flight. -/
def ReadChunk.completion
    (chunk : ReadChunk)
    (result : Option Int) : DirectIoCompletion :=
  { userData := chunk.userData
    result := result.getD chunk.length
    operationId := chunk.operationId }

/-- The drive completes one of its reads and posts the completion. -/
def Supply.post
    (supply : Supply)
    (index : Nat)
    (result : Option Int) : Supply :=
  match supply.inFlight[index]? with
  | none => supply
  | some chunk =>
    { supply with
      inFlight := supply.inFlight.eraseIdx index
      posted := supply.posted ++ [chunk.completion result] }

/--
What the drive does while a thread waits for it: an answer posts one of the reads
in flight, counted round.
-/
def Answer.post
    (answer : Answer)
    (supply : Supply) : Supply :=
  match answer with
  | .completes index result =>
    supply.post (index % supply.inFlight.length) result
  | .ringFailed => supply
  | _ => supply.post 0 none

/--
`wait_for_completion`.  The thread sleeps until the ring has a completion; a wait
that the drive never answers ends as one that a signal interrupted.
-/
def waitForCompletion : SupplyCall DirectIoCompletion := do
  let supply ← read
  match supply.posted with
  | completion :: rest => do
      write fun supply => { supply with posted := rest }
      ret completion
  | [] => do
      let answer ← ask .ready
      write answer.post
      let supply ← read
      match supply.posted with
      | completion :: rest => do
          write fun supply => { supply with posted := rest }
          ret completion
      | [] =>
        throwing
          (.runtimeError "DirectIOReader: io_uring_enter wait failed")

/-! ## The completion store -/

/-- `direct_io_completions_->find`. -/
def Supply.stored
    (supply : Supply)
    (userData : Nat) : Option DirectIoCompletion :=
  supply.completions.find? fun completion => completion.userData = userData

/-- `direct_io_completions_->emplace`: a key already there keeps its value. -/
def Supply.emplace
    (supply : Supply)
    (completion : DirectIoCompletion) : Supply :=
  if (supply.stored completion.userData).isSome then supply
  else
    { supply with completions := supply.completions ++ [completion] }

/-- The `try_completion` loop: every posted completion goes to the store. -/
def Supply.drainPosted (supply : Supply) : Supply :=
  supply.posted.foldl Supply.emplace { supply with posted := [] }

/-- `direct_io_completions_->erase`, for the transfer that consumes it. -/
def Supply.consume
    (supply : Supply)
    (operationId : Nat)
    (completion : DirectIoCompletion) : Supply :=
  { supply with
    completions := supply.completions.filter fun other =>
      other.userData ≠ completion.userData
    mixups :=
      if completion.operationId = operationId then supply.mixups
      else (operationId, completion.userData) :: supply.mixups }

end Aeon.Transport
