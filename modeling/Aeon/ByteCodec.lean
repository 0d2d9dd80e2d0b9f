import Aeon.LittleEndian

namespace Aeon.ByteCodec

/-!
# Readers that take back what was written

A reader takes a value from the front of a byte string and leaves the rest.  It reads
an encoding if it takes exactly that from the front of every text, and readers in a row
then read encodings in a row.  This module names nothing of the program.
-/

open LittleEndian

variable {Error Item : Type}

/-- A reader of the front of a byte string. -/
abbrev Reader (Error Item : Type) := Bytes → Except Error (Item × Bytes)

/-- The reader takes the encoding of the value and nothing behind it. -/
def Reads
    (reader : Reader Error Item)
    (encoding : Bytes)
    (value : Item) : Prop :=
  ∀ rest, reader (encoding ++ rest) = .ok (value, rest)

/-- The bytes of a fixed count. -/
def readExact
    (error : Error)
    (count : Nat) : Reader Error Bytes :=
  fun input =>
    if input.length < count then .error error
    else .ok (input.take count, input.drop count)

/-- One value after another. -/
def readMany
    (reader : Reader Error Item) : Nat → Reader Error (List Item)
  | 0, input => .ok ([], input)
  | count + 1, input => do
      let (value, rest) ← reader input
      let (values, rest) ← readMany reader count rest
      .ok (value :: values, rest)

/-- A text is read back by its length. -/
theorem reads_exact
    (error : Error)
    (text : Bytes) :
    Reads (readExact error text.length) text text := by
  intro rest
  rw [readExact, if_neg (by simp), List.take_left, List.drop_left]

/-- What is read item by item is read as a list. -/
theorem reads_many
    {reader : Reader Error Item}
    {encode : Item → Bytes}
    {values : List Item}
    (each : ∀ value ∈ values, Reads reader (encode value) value) :
    Reads (readMany reader values.length) (values.flatMap encode) values := by
  induction values with
  | nil => exact fun _ => rfl
  | cons value values ih =>
    rw [List.forall_mem_cons] at each
    intro rest
    have head := each.1 (values.flatMap encode ++ rest)
    have tail := ih each.2 rest
    rw [List.flatMap_cons, List.append_assoc, List.length_cons, readMany]
    simp only [head, tail, ok_bind]

end Aeon.ByteCodec
