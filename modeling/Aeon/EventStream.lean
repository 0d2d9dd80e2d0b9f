import Aeon.Bytes

namespace Aeon.EventStream

/-!
# Event streams

A receiver of `text/event-stream` takes bytes one at a time.  A line ends at a line feed,
at a carriage return or at both, a `data` line adds to the event's data, and an empty
line dispatches the event.  This module names nothing of the program.
-/

/-- What a receiver holds between two bytes. -/
structure Receiver where
  line : Bytes := []
  data : Bytes := []
  afterReturn : Bool := false
  events : List Bytes := []
  deriving DecidableEq

/-- The name and the value of a line; one blank in front of the value is dropped. -/
def field (line : Bytes) : Bytes × Bytes :=
  let value := (line.dropWhile fun byte => byte ≠ 0x3a).drop 1
  (line.takeWhile fun byte => byte ≠ 0x3a,
    if value.head? = some 0x20 then value.drop 1 else value)

namespace Receiver

/-- The end of a line; an empty one dispatches what there is. -/
def endLine (receiver : Receiver) : Receiver :=
  if receiver.line = [] then
    if receiver.data = [] then receiver
    else
      { receiver with
        data := []
        events := receiver.events ++ [receiver.data.dropLast] }
  else
    let (name, value) := field receiver.line
    { receiver with
      line := []
      data := if name = bytes "data" then receiver.data ++ (value ++ [0x0a])
        else receiver.data }

/-- One byte; a line feed behind a carriage return belongs to it. -/
def take
    (receiver : Receiver)
    (byte : UInt8) : Receiver :=
  if byte = 0x0a then
    if receiver.afterReturn then { receiver with afterReturn := false }
    else receiver.endLine
  else if byte = 0x0d then { receiver.endLine with afterReturn := true }
  else { receiver with line := receiver.line ++ [byte], afterReturn := false }

/-- The bytes of a text. -/
def feed
    (receiver : Receiver)
    (text : Bytes) : Receiver :=
  text.foldl take receiver

/-- Between two events. -/
structure Between (receiver : Receiver) : Prop where
  line : receiver.line = []
  data : receiver.data = []
  afterReturn : receiver.afterReturn = false

end Receiver

/-- A text within one line. -/
def Unbroken (text : Bytes) : Prop :=
  ∀ byte ∈ text, byte ≠ 0x0a ∧ byte ≠ 0x0d

/-- A block of lines: an event of one line, or a comment. -/
inductive Block where
  | event (payload : Bytes)
  | comment (text : Bytes)
  deriving DecidableEq

namespace Block

/-- The bytes of a block. -/
def source : Block → Bytes
  | .event payload => bytes "data: " ++ (payload ++ [0x0a, 0x0a])
  | .comment text => 0x3a :: (text ++ [0x0a, 0x0a])

/-- What a block dispatches. -/
def payload? : Block → Option Bytes
  | .event payload => some payload
  | .comment _ => none

/-- Its only line breaks are its own. -/
def Whole : Block → Prop
  | .event payload => Unbroken payload
  | .comment text => Unbroken text

end Block

/-! ## Blocks are received one by one -/

/-- Where a text is cut makes no difference. -/
theorem Receiver.feed_append
    (receiver : Receiver)
    (text rest : Bytes) :
    receiver.feed (text ++ rest) = (receiver.feed text).feed rest :=
  List.foldl_append

theorem Receiver.feed_unbroken
    {receiver : Receiver}
    {text : Bytes}
    (unbroken : Unbroken text)
    (noReturn : receiver.afterReturn = false) :
    receiver.feed text = { receiver with line := receiver.line ++ text } := by
  induction text generalizing receiver with
  | nil => simp [feed]
  | cons byte rest ih =>
    obtain ⟨⟨notFeed, notReturn⟩, others⟩ := List.forall_mem_cons.mp unbroken
    have taken : receiver.take byte =
        { receiver with line := receiver.line ++ [byte], afterReturn := false } := by
      rw [take, if_neg notFeed, if_neg notReturn]
    have behind := @ih (receiver.take byte) others (by rw [taken])
    rw [feed, List.foldl_cons, ← feed, behind, taken]
    simp [← noReturn]

/-- A line is ended by its line feed. -/
theorem Receiver.feed_line
    {receiver : Receiver}
    {text : Bytes}
    (unbroken : Unbroken text)
    (started : receiver.line = [])
    (noReturn : receiver.afterReturn = false) :
    receiver.feed (text ++ [0x0a]) = { receiver with line := text }.endLine := by
  rw [feed_append, feed_unbroken unbroken noReturn, started, List.nil_append]
  simp [feed, take, noReturn]

theorem field_data (payload : Bytes) :
    field (bytes "data: " ++ payload) = (bytes "data", payload) := by
  have front : bytes "data: " = [0x64, 0x61, 0x74, 0x61, 0x3a, 0x20] := by decide
  have name : bytes "data" = [0x64, 0x61, 0x74, 0x61] := by decide
  simp [field, front, name]

theorem field_comment (text : Bytes) : (field (0x3a :: text)).1 = [] := by
  simp [field]

theorem Receiver.feed_empty
    {receiver : Receiver}
    (noReturn : receiver.afterReturn = false) :
    receiver.feed [0x0a] = receiver.endLine := by
  simp [feed, take, noReturn]

theorem Receiver.feed_lines
    {receiver : Receiver}
    {text : Bytes}
    (unbroken : Unbroken text)
    (between : receiver.Between) :
    receiver.feed (text ++ [0x0a, 0x0a]) =
      ({ receiver with line := text }.endLine).feed [0x0a] := by
  have line := feed_line unbroken between.line between.afterReturn
  rw [← line, ← feed_append, List.append_assoc]
  rfl

/-- A whole block between two events is one event, or none if it is a comment. -/
theorem Receiver.feed_block
    {receiver : Receiver}
    {block : Block}
    (whole : block.Whole)
    (between : receiver.Between) :
    receiver.feed block.source =
      { receiver with events := receiver.events ++ block.payload?.toList } := by
  obtain ⟨line, data, afterReturn, events⟩ := receiver
  obtain ⟨rfl, rfl, rfl⟩ : line = [] ∧ data = [] ∧ afterReturn = false :=
    ⟨between.line, between.data, between.afterReturn⟩
  cases block with
  | event payload =>
    have unbroken : Unbroken (bytes "data: " ++ payload) :=
      List.forall_mem_append.mpr ⟨by decide, whole⟩
    have nonempty : bytes "data: " ≠ [] := by decide
    have ended : (⟨bytes "data: " ++ payload, [], false, events⟩ : Receiver).endLine =
        ⟨[], payload ++ [0x0a], false, events⟩ := by
      simp [endLine, nonempty, field_data]
    rw [Block.source, ← List.append_assoc, feed_lines unbroken between, ended,
      feed_empty rfl]
    simp [endLine, Block.payload?]
  | comment text =>
    have unbroken : Unbroken (0x3a :: text) :=
      List.forall_mem_cons.mpr ⟨by decide, whole⟩
    have notData : ([] : Bytes) ≠ bytes "data" := by decide
    have ended : (⟨0x3a :: text, [], false, events⟩ : Receiver).endLine =
        ⟨[], [], false, events⟩ := by
      simp [endLine, field_comment, notData]
    rw [Block.source, ← List.cons_append, feed_lines unbroken between, ended,
      feed_empty rfl]
    simp [endLine, Block.payload?]

end Aeon.EventStream
