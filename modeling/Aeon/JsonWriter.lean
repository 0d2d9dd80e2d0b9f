import Aeon.JsonSources
import Aeon.NumberFormat

namespace Aeon.Server

open Aeon.Json (Double doubleText integerText separated)

/-!
# The JSON writer

The writer takes one call after another and keeps the kinds of the open containers,
whether each has a child, and whether a key waits for its value.  Calls that are well
nested write the compact text of the tree they describe, wherever a value may stand.
-/

/-! ## The writer -/

/-- A hexadecimal digit as `printf` writes it. -/
def lowerHex (digit : Nat) : UInt8 :=
  UInt8.ofNat (if digit < 10 then 0x30 + digit else 0x61 + (digit - 10))

/-- One byte of `json_escape`. -/
def jsonEscapeByte (byte : UInt8) : Bytes :=
  if byte = 0x22 then [0x5c, 0x22]
  else if byte = 0x5c then [0x5c, 0x5c]
  else if byte = 0x0a then bytes "\\n"
  else if byte = 0x0d then bytes "\\r"
  else if byte = 0x09 then bytes "\\t"
  else if byte = 0x08 then bytes "\\b"
  else if byte = 0x0c then bytes "\\f"
  else if byte < 0x20 then
    bytes "\\u00" ++ [lowerHex (byte.toNat / 16), lowerHex (byte.toNat % 16)]
  else [byte]

/-- `json_escape`. -/
def jsonEscape (text : Bytes) : Bytes :=
  text.flatMap jsonEscapeByte

/-- `json_number`. -/
def jsonNumber (value : Double) : Bytes :=
  doubleText value

/-- `JsonWriter`; the last open container comes first. -/
structure Writer where
  out : Bytes := []
  container : List UInt8 := []
  hasChild : List Bool := []
  pendingKey : Bool := false
  deriving Repr, DecidableEq

namespace Writer

/-- `separator_for_key`. -/
def separatorForKey (writer : Writer) : Writer :=
  match writer.hasChild with
  | [] => writer
  | child :: rest =>
    { writer with
      out := if child then writer.out ++ [0x2c] else writer.out
      hasChild := true :: rest }

/-- `separator`. -/
def separator (writer : Writer) : Writer :=
  match writer.hasChild with
  | [] => writer
  | child :: rest =>
    if writer.pendingKey then
      { writer with pendingKey := false, hasChild := true :: rest }
    else if child then { writer with out := writer.out ++ [0x2c] }
    else { writer with hasChild := true :: rest }

variable (writer : Writer)

/-- `open`. -/
def openWith
    (brace : UInt8) : Writer :=
  let separated := writer.separator
  { separated with
    out := separated.out ++ [brace]
    container := brace :: separated.container
    hasChild := false :: separated.hasChild }

/-- `close`; without an open container it is undefined. -/
def close (writer : Writer) : Option Writer :=
  match writer.container with
  | [] => none
  | brace :: container =>
    some {
      out := writer.out ++ [if brace = 0x5b then 0x5d else 0x7d]
      container
      hasChild := writer.hasChild.tail
      pendingKey := false }

/-- A value behind its separator. -/
def put
    (text : Bytes) : Writer :=
  let separated := writer.separator
  { separated with out := separated.out ++ text }

/-- A string in quotes. -/
def quote (text : Bytes) : Bytes :=
  0x22 :: (jsonEscape text ++ [0x22])

/-- `key`. -/
def key
    (name : Bytes) : Writer :=
  let separated := writer.separatorForKey
  { separated with
    out := separated.out ++ (quote name ++ [0x3a])
    pendingKey := true }

/-- `string`. -/
def string
    (value : Bytes) : Writer :=
  writer.put (quote value)

/-- `raw`. -/
def raw
    (value : Bytes) : Writer :=
  writer.put value

/-- `number`. -/
def number
    (value : Double) : Writer :=
  writer.put (jsonNumber value)

/-- `integer`. -/
def integer
    (value : Int64) : Writer :=
  writer.put (integerText value.toInt)

/-- `boolean`. -/
def boolean
    (value : Bool) : Writer :=
  writer.put (if value then bytes "true" else bytes "false")

/-- `null_value`. -/
def nullValue (writer : Writer) : Writer :=
  writer.put (bytes "null")

end Writer

/-! ## Calls -/

/-- A value that is written by one call. -/
inductive Leaf where
  | string (value : Bytes)
  | raw (value : Bytes)
  | number (value : Double)
  | integer (value : Int64)
  | boolean (value : Bool)
  | null
  deriving DecidableEq

/-- A call of a member function. -/
inductive Call where
  | beginObject
  | beginArray
  | endObject
  | endArray
  | key (name : Bytes)
  | value (leaf : Leaf)
  deriving DecidableEq

/-- The call that writes a value. -/
def Leaf.write
    (leaf : Leaf)
    (writer : Writer) : Writer :=
  match leaf with
  | .string value => writer.string value
  | .raw value => writer.raw value
  | .number value => writer.number value
  | .integer value => writer.integer value
  | .boolean value => writer.boolean value
  | .null => writer.nullValue

/-- What a call makes of the writer. -/
def Call.apply
    (call : Call)
    (writer : Writer) : Option Writer :=
  match call with
  | .beginObject => some (writer.openWith 0x7b)
  | .beginArray => some (writer.openWith 0x5b)
  | .endObject => writer.close
  | .endArray => writer.close
  | .key name => some (writer.key name)
  | .value leaf => some (leaf.write writer)

/-- What calls in a row make of it. -/
def run :
    List Call → Writer → Option Writer
  | [], writer => some writer
  | call :: calls, writer => (call.apply writer).bind (run calls)

/-! ## Trees -/

/-- A tree of values. -/
inductive JsonTree where
  | leaf (leaf : Leaf)
  | array (elements : List JsonTree)
  | object (members : List (Bytes × JsonTree))

/-- The text of a value that is written by one call. -/
def Leaf.text : Leaf → Bytes
  | .string value => Writer.quote value
  | .raw value => value
  | .number value => jsonNumber value
  | .integer value => integerText value.toInt
  | .boolean value => if value then bytes "true" else bytes "false"
  | .null => bytes "null"

mutual

/-- The text of a tree without any blanks. -/
def compact : JsonTree → Bytes
  | .leaf leaf => leaf.text
  | .array elements => 0x5b :: (separated (compactElements elements) ++ [0x5d])
  | .object members => 0x7b :: (separated (compactMembers members) ++ [0x7d])

/-- The texts of the elements. -/
def compactElements : List JsonTree → List Bytes
  | [] => []
  | element :: rest => compact element :: compactElements rest

/-- The texts of the members. -/
def compactMembers : List (Bytes × JsonTree) → List Bytes
  | [] => []
  | (name, member) :: rest =>
    (Writer.quote name ++ 0x3a :: compact member) :: compactMembers rest

end

theorem compactElements_eq (elements : List JsonTree) :
    compactElements elements = elements.map compact := by
  induction elements with
  | nil => rfl
  | cons element rest ih =>
    rw [compactElements, ih, List.map_cons]

theorem compactMembers_eq (members : List (Bytes × JsonTree)) :
    compactMembers members =
      members.map fun member => Writer.quote member.1 ++ 0x3a :: compact member.2 := by
  induction members with
  | nil => rfl
  | cons member rest ih =>
    rw [compactMembers, ih, List.map_cons]

/-- Calls that are well nested, and the tree they describe. -/
inductive Nests : List Call → JsonTree → Prop where
  | value (leaf : Leaf) : Nests [.value leaf] (.leaf leaf)
  | array
      {parts : List (List Call × JsonTree)}
      (each : ∀ part ∈ parts, Nests part.1 part.2) :
      Nests (.beginArray :: (parts.flatMap (·.1) ++ [.endArray]))
        (.array (parts.map (·.2)))
  | object
      {parts : List (Bytes × List Call × JsonTree)}
      (each : ∀ part ∈ parts, Nests part.2.1 part.2.2) :
      Nests
        (.beginObject ::
          (parts.flatMap (fun part => .key part.1 :: part.2.1) ++ [.endObject]))
        (.object (parts.map fun part => (part.1, part.2.2)))

/-! ## Well-nested calls -/

theorem run_append
    (calls others : List Call)
    (writer : Writer) :
    run (calls ++ others) writer = (run calls writer).bind (run others) := by
  induction calls generalizing writer with
  | nil => rfl
  | cons call calls ih =>
    rw [List.cons_append, run, run, Option.bind_assoc]
    exact Option.bind_congr fun next _ => ih next

theorem Leaf.write_eq
    (leaf : Leaf)
    (writer : Writer) :
    leaf.write writer = writer.put leaf.text := by
  cases leaf <;> rfl

/-- A value may stand here: no key is waiting outside of all containers. -/
def Writer.Ready (writer : Writer) : Prop :=
  writer.hasChild = [] → writer.pendingKey = false

/-- The writer after one value of this text. -/
def Writer.after
    (writer : Writer)
    (text : Bytes) : Writer :=
  { writer.put text with pendingKey := false }

theorem Writer.separator_pendingKey
    {writer : Writer}
    (ready : writer.Ready) :
    writer.separator.pendingKey = false := by
  unfold Writer.separator
  split
  · next empty => exact ready empty
  · split
    · rfl
    · next notPending =>
        split <;> simpa using notPending

/-- More items behind those that are there. -/
def continued (child : Bool) : List Bytes → Bytes
  | [] => []
  | text :: texts =>
    (if child then [0x2c] else []) ++ separated (text :: texts)

/-- Calls that write one item of an open container. -/
def Item
    (calls : List Call)
    (text : Bytes) : Prop :=
  ∀ {writer : Writer} {child rest},
    writer.hasChild = child :: rest → writer.pendingKey = false →
      run calls writer = some { writer with
        out := writer.out ++ continued child [text]
        hasChild := true :: rest }

/-- Items in a row are separated by commas. -/
theorem run_items
    {items : List (List Call × Bytes)}
    (each : ∀ item ∈ items, Item item.1 item.2)
    {writer : Writer}
    {child : Bool}
    {rest : List Bool}
    (inside : writer.hasChild = child :: rest)
    (noKey : writer.pendingKey = false) :
    run (items.flatMap (·.1)) writer = some { writer with
      out := writer.out ++ continued child (items.map (·.2))
      hasChild := (child || !items.isEmpty) :: rest } := by
  induction items generalizing writer child with
  | nil => simp [run, continued, ← inside]
  | cons item items ih =>
    rw [List.forall_mem_cons] at each
    have behind := @ih each.2
      { writer with
        out := writer.out ++ continued child [item.2]
        hasChild := true :: rest } true rfl noKey
    rw [List.flatMap_cons, run_append, each.1 inside noKey, Option.bind_some, behind]
    have texts : continued child [item.2] ++ continued true (items.map (·.2)) =
        continued child ((item :: items).map (·.2)) := by
      cases items <;> simp [continued, separated]
    simpa using texts

section

variable
    {calls : List Call}
    {text : Bytes}
    (writes : ∀ writer : Writer, writer.Ready → run calls writer = some (writer.after text))

include writes

theorem item_element :
    Item calls text := by
  intro writer child rest inside noKey
  rw [writes writer fun _ => noKey]
  cases child <;>
    simp [Writer.after, Writer.put, Writer.separator, inside, noKey, continued, separated]

theorem item_member
    (name : Bytes) :
    Item (.key name :: calls) (Writer.quote name ++ 0x3a :: text) := by
  intro writer child rest inside noKey
  have keyed : writer.key name = { writer with
      out := writer.out ++ ((if child then [0x2c] else []) ++ (Writer.quote name ++ [0x3a]))
      hasChild := true :: rest
      pendingKey := true } := by
    cases child <;> simp [Writer.key, Writer.separatorForKey, inside]
  have isReady : (writer.key name).Ready := by
    rw [keyed]
    exact nofun
  rw [run, Call.apply, Option.bind_some, writes _ isReady, keyed]
  simp [Writer.after, Writer.put, Writer.separator, continued, separated, ← noKey]

end

theorem run_container
    {start finish : Call}
    {brace closing : UInt8}
    (starts : ∀ writer, start.apply writer = some (writer.openWith brace))
    (finishes : ∀ writer, finish.apply writer = writer.close)
    (closes : (if brace = 0x5b then 0x5d else 0x7d) = closing)
    {items : List (List Call × Bytes)}
    (each : ∀ item ∈ items, Item item.1 item.2)
    {writer : Writer}
    (ready : writer.Ready) :
    run (start :: (items.flatMap (·.1) ++ [finish])) writer =
      some (writer.after (brace :: (separated (items.map (·.2)) ++ [closing]))) := by
  have listed : continued false (items.map (·.2)) = separated (items.map (·.2)) := by
    cases items <;> simp [continued, separated]
  have opened := run_items each (show (writer.openWith brace).hasChild =
    false :: writer.separator.hasChild from rfl) (Writer.separator_pendingKey ready)
  rw [run, starts, Option.bind_some, run_append, opened, Option.bind_some, run, finishes,
    listed]
  simp [Writer.close, Writer.openWith, Writer.after, Writer.put, run, ← closes]

theorem run_nests
    {calls : List Call}
    {tree : JsonTree}
    (nests : Nests calls tree)
    {writer : Writer}
    (ready : writer.Ready) :
    run calls writer = some (writer.after (compact tree)) := by
  induction nests generalizing writer with
  | value leaf =>
    have noKey := Writer.separator_pendingKey ready
    rw [run, Call.apply, Option.bind_some, Leaf.write_eq, run, compact]
    simp [Writer.after, Writer.put, ← noKey]
  | @array parts _ ih =>
    have items : ∀ item ∈ parts.map fun part => (part.1, compact part.2),
        Item item.1 item.2 :=
      List.forall_mem_map.mpr fun part isPart =>
        item_element fun writer isReady => ih part isPart isReady
    have written := @run_container .beginArray .endArray 0x5b 0x5d (fun _ => rfl)
      (fun _ => rfl) rfl _ items writer ready
    rw [List.flatMap_map, List.map_map] at written
    rw [written, compact, compactElements_eq, List.map_map]
    rfl
  | @object parts _ ih =>
    have items : ∀ item ∈ parts.map fun part =>
        (.key part.1 :: part.2.1,
          Writer.quote part.1 ++ 0x3a :: compact part.2.2),
        Item item.1 item.2 :=
      List.forall_mem_map.mpr fun part isPart =>
        item_member (fun writer isReady => ih part isPart isReady) part.1
    have written := @run_container .beginObject .endObject 0x7b 0x7d (fun _ => rfl)
      (fun _ => rfl) rfl _ items writer ready
    rw [List.flatMap_map, List.map_map] at written
    rw [written, compact, compactMembers_eq, List.map_map]
    rfl

end Aeon.Server
