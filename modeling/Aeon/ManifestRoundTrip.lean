import Aeon.IntegerText
import Aeon.ManifestWriter

namespace Aeon.Manifest

open Artifact (LoaderError)
open Json (decimal digitsValue isDigit codePointBytes)

/-!
# What the reader makes of a written manifest

The text is a row of parts.  A search passes a fixed part in which the name does not
start, a number, and a string that does not collide with the name.
-/

/-! ## Passing the parts -/

/-- The next part starts with the comma behind a string. -/
def startsWithComma : List Piece → Bool
  | .fixed (0x2c :: _) :: _ => true
  | _ => false

/-- The name starts in no fixed part, and a comma follows each string. -/
def clearPieces (key : String) : List Piece → Bool
  | [] => true
  | .fixed content :: rest =>
    Bytes.clear (Bytes.quoted (bytes key)) content && clearPieces key rest
  | .string _ :: rest => startsWithComma rest && clearPieces key rest
  | .number _ :: rest => clearPieces key rest

/-- The strings among the parts. -/
def stringsOf : List Piece → List (List CodePoint)
  | [] => []
  | .string value :: rest => value :: stringsOf rest
  | .fixed _ :: rest => stringsOf rest
  | .number _ :: rest => stringsOf rest

theorem decimal_no_quote (value : Nat) : 0x22 ∉ decimal value := by
  intro listed
  have digit := Json.decimal_digits value 0x22 listed
  exact absurd digit (by decide)

/-- A key is not met between two pieces, -/
theorem not_closing
    {key : String}
    (comma : 0x2c ∉ bytes key)
    {pieces : List Piece}
    (starts : startsWithComma pieces = true)
    (text : Bytes) :
    ¬ Bytes.quoted (bytes key) <+: 0x22 :: (sources pieces ++ text) := by
  unfold startsWithComma at starts
  split at starts
  · next content rest =>
      rw [sources, List.flatMap_cons, Piece.source, Bytes.quoted, List.cons_prefix_cons]
      intro occurs
      cases letters : bytes key with
      | nil =>
        rw [letters] at occurs
        exact absurd (List.cons_prefix_cons.mp occurs.2).1 (by decide)
      | cons first others =>
        rw [letters] at occurs comma
        refine comma ?_
        rw [← (List.cons_prefix_cons.mp occurs.2).1]
        exact List.mem_cons_self
  · cases starts

/-- so the search goes past the pieces that do not hold it. -/
theorem behind_pieces
    {key : String}
    (plain : pythonEscaping.Plain (bytes key))
    (comma : 0x2c ∉ bytes key)
    {front : List Piece}
    (passed : clearPieces key front = true)
    (apart : ∀ value ∈ stringsOf front, ¬ pythonEscaping.Collides (bytes key) value)
    (text : Bytes) :
    Bytes.behind (Bytes.quoted (bytes key)) (sources front ++ text) =
      Bytes.behind (Bytes.quoted (bytes key)) text := by
  induction front with
  | nil => rfl
  | cons piece front ih =>
    rw [sources, List.flatMap_cons, ← sources, List.append_assoc]
    cases piece with
    | fixed content =>
      rw [clearPieces, Bool.and_eq_true] at passed
      rw [Piece.source, Bytes.behind_clear passed.1, ih passed.2 apart]
    | number value =>
      rw [Piece.source, Bytes.quoted,
        Bytes.behind_append_of_notMem (decimal_no_quote value), ← Bytes.quoted,
        ih passed apart]
    | string value =>
      rw [clearPieces, Bool.and_eq_true] at passed
      rw [stringsOf, List.forall_mem_cons] at apart
      rw [← ih passed.2 apart.2, Piece.source, List.cons_append,
        List.append_assoc, List.singleton_append]
      have value_passed := Escaping.behind_value plain apart.1 (sources front ++ text)
      exact value_passed.trans (Bytes.behind_cons (not_closing comma passed.1 text))

/-! ## The fields in the text -/

/-- Where a field's name stands among the parts. -/
def Field.place : Field → Nat
  | .number .manifestVersion => 1
  | .text .modelFamily => 2
  | .text .architecture => 5
  | .text .weightBackend => 8
  | .number .denseFileBytes => 9
  | .number .numLayers => 12
  | .number .expertsPerLayer => 15
  | .text .denseFilename => 19
  | .text .expertsFilename => 20
  | .text .indexFilename => 21
  | .number .denseFormatVersion => 22
  | .text .expertFormat => 23
  | .number .expertFormatVersion => 24
  | .number .expertSectorSize => 27
  | .number .expertPayloadBytes => 28

/-- The string that is written for a field. -/
def writtenText (modelType : List CodePoint) : TextField → List CodePoint
  | .modelFamily => modelFamily modelType
  | .architecture => modelType
  | .weightBackend | .expertFormat => (bytes "swizzled_w4a16").map .ofByte
  | .denseFilename => (bytes "model_dense.aeon").map .ofByte
  | .expertsFilename => (bytes "model_experts_swizzled.aeon").map .ofByte
  | .indexFilename => (bytes "model_experts_swizzled.index").map .ofByte

section Written

variable (modelType : List CodePoint)
variable (catalog : Catalog)

/-- The value that is written for a field. -/
def writtenPiece : Field → Piece
  | .text field => .string (writtenText modelType field)
  | .number field => .number ((writtenManifest modelType catalog).numberValue field)

/-- The parts in front of a field. -/
def inFront (field : Field) : List Piece :=
  (manifestPieces modelType catalog).take field.place

/-- The text. -/
def writtenSource : Bytes :=
  sources (manifestPieces modelType catalog)

variable {modelType catalog}

theorem sources_append (first second : List Piece) :
    sources (first ++ second) = sources first ++ sources second :=
  List.flatMap_append

/-- No piece in front of a field holds its key. -/
theorem inFront_clear (field : Field) :
    clearPieces field.key (inFront modelType catalog field) = true := by
  rcases field with field | field <;> cases field <;> rfl

/-- The name, the colon and the value of a field, with a comma or a line break behind. -/
theorem writtenSource_eq (field : Field) :
    ∃ byte rest, (byte = 0x2c ∨ byte = 0x0a) ∧
      writtenSource modelType catalog =
        sources (inFront modelType catalog field) ++
          (Bytes.quoted (bytes field.key) ++
            0x3a :: 0x20 :: ((writtenPiece modelType catalog field).source ++ byte :: rest)) := by
  have split : writtenSource modelType catalog =
      sources (inFront modelType catalog field) ++
        sources ((manifestPieces modelType catalog).drop field.place) := by
    rw [← sources_append, inFront, List.take_append_drop]
    rfl
  rw [split]
  rcases field with field | field
  · cases field with
    | modelFamily => exact ⟨0x2c, _, Or.inl rfl, rfl⟩
    | architecture => exact ⟨0x2c, _, Or.inl rfl, rfl⟩
    | weightBackend => exact ⟨0x2c, _, Or.inl rfl, rfl⟩
    | denseFilename => exact ⟨0x2c, _, Or.inl rfl, rfl⟩
    | expertsFilename => exact ⟨0x2c, _, Or.inl rfl, rfl⟩
    | indexFilename => exact ⟨0x2c, _, Or.inl rfl, rfl⟩
    | expertFormat => exact ⟨0x2c, _, Or.inl rfl, rfl⟩
  · cases field with
    | manifestVersion => exact ⟨0x2c, _, Or.inl rfl, rfl⟩
    | denseFormatVersion => exact ⟨0x2c, _, Or.inl rfl, rfl⟩
    | expertFormatVersion => exact ⟨0x2c, _, Or.inl rfl, rfl⟩
    | expertSectorSize => exact ⟨0x2c, _, Or.inl rfl, rfl⟩
    | expertPayloadBytes => exact ⟨0x0a, _, Or.inr rfl, rfl⟩
    | denseFileBytes => exact ⟨0x2c, _, Or.inl rfl, rfl⟩
    | numLayers => exact ⟨0x2c, _, Or.inl rfl, rfl⟩
    | expertsPerLayer => exact ⟨0x2c, _, Or.inl rfl, rfl⟩

/-! ## Where the searches end -/

theorem key_plain (field : Field) : pythonEscaping.Plain (bytes field.key) := by
  unfold Escaping.Plain
  rcases field with field | field <;> cases field <;> decide

theorem key_comma (field : Field) : 0x2c ∉ bytes field.key := by
  rcases field with field | field <;> cases field <;> decide

theorem isBlank_of_isDigit
    {byte : UInt8}
    (digit : isDigit byte = true) :
    isBlank byte = false := by
  by_contra blank
  simp only [isBlank, Bool.not_eq_false, Bool.or_eq_true, beq_iff_eq] at blank
  rcases blank with ((rfl | rfl) | rfl) | rfl <;> cases digit

/-- A value starts with a digit or a quote. -/
theorem writtenPiece_head (field : Field) :
    ∃ first rest, (writtenPiece modelType catalog field).source = first :: rest ∧
      isBlank first = false := by
  cases field with
  | text field => exact ⟨0x22, _, rfl, rfl⟩
  | number field =>
    obtain ⟨first, rest, shape, -⟩ :=
      Json.decimal_head ((writtenManifest modelType catalog).numberValue field)
    have digit : isDigit first = true :=
      Json.decimal_digits _ first (by rw [shape]; exact List.mem_cons_self)
    exact ⟨first, rest, shape, isBlank_of_isDigit digit⟩

/-- The search ends at the field's own value. -/
theorem own_start
    {field : Field}
    (apart : ∀ value ∈ stringsOf (inFront modelType catalog field),
      ¬ pythonEscaping.Collides (bytes field.key) value) :
    ∃ byte rest, (byte = 0x2c ∨ byte = 0x0a) ∧
      manifestValueStart (writtenSource modelType catalog) field.key =
        .ok ((writtenPiece modelType catalog field).source ++ byte :: rest) := by
  obtain ⟨byte, rest, ends, source⟩ := @writtenSource_eq modelType catalog field
  refine ⟨byte, rest, ends, manifestValueStart_ok_iff.mpr ⟨[], [0x20], ?_, by simp, ?_, ?_⟩⟩
  · rw [source, behind_pieces (key_plain field) (key_comma field) (inFront_clear field) apart,
      Bytes.behind_of_prefix (Bytes.quoted_ne_nil _)]
    rfl
  · intro byte listed
    rw [List.mem_singleton.mp listed]
    rfl
  · obtain ⟨first, others, shape, visible⟩ := @writtenPiece_head modelType catalog field
    exact ⟨first, others ++ byte :: rest, by rw [shape, List.cons_append], visible⟩

end Written

/-! ## Scanning a written value -/

/-- A code point whose escape the reader knows. -/
def Readable (point : CodePoint) : Prop :=
  0x20 ≤ point.val ∧ point.val ≤ 0x7e ∨ point.val ∈ [0x08, 0x09, 0x0a, 0x0c, 0x0d]

instance : DecidablePred Readable :=
  fun _ => inferInstanceAs (Decidable (_ ∨ _))

variable {point : CodePoint}

theorem Readable.lt
    (readable : Readable point) :
    point.val < 0x7f := by
  rcases readable with ⟨-, high⟩ | listed
  · omega
  · simp only [List.mem_cons, List.not_mem_nil, or_false] at listed
    omega

theorem manifestStringBody_escape
    (readable : Readable point)
    (key : String)
    (rest : Bytes) :
    manifestStringBody key (escapeCodePoint point ++ rest) =
      (manifestStringBody key rest).map (UInt8.ofNat point.val :: ·) := by
  have small := readable.lt
  obtain ⟨value, bound⟩ := point
  simp only at small
  interval_cases value
  all_goals first
    | rfl
    | exact absurd readable (by simp [Readable])

theorem escapeCodePoint_control : ∀ value : Fin 0x7f,
    ¬ Readable ⟨value, Nat.lt_trans value.2 (by decide)⟩ →
      (escapeCodePoint ⟨value, Nat.lt_trans value.2 (by decide)⟩).take 2 =
        [0x5c, 0x75] := by
  decide

theorem escapeCodePoint_unreadable
    (unreadable : ¬ Readable point) :
    ∃ rest, escapeCodePoint point = 0x5c :: 0x75 :: rest := by
  rcases Nat.lt_or_ge point.val 0x7f with ascii | high
  · have front := escapeCodePoint_control ⟨point.val, ascii⟩ unreadable
    exact ⟨_, (List.take_append_drop 2 _).symm.trans (congrArg (· ++ _) front)⟩
  · rw [escapeCodePoint_high high]
    simp only [Json.unicodeEscape, Json.bytes_unicode]
    split
    · exact ⟨_, rfl⟩
    · exact ⟨_, rfl⟩

/-- The reader knows no unicode escape. -/
theorem manifestStringBody_unreadable
    (unreadable : ¬ Readable point)
    (key : String)
    (rest : Bytes) :
    ∃ error, manifestStringBody key (escapeCodePoint point ++ rest) = .error error := by
  obtain ⟨digits, escape⟩ := escapeCodePoint_unreadable unreadable
  rw [escape]
  exact ⟨_, rfl⟩

theorem codePointBytes_readable
    (readable : Readable point) :
    codePointBytes point.val = [UInt8.ofNat point.val] :=
  if_pos (Nat.le_of_lt_succ (Nat.lt_trans readable.lt (by decide)))

theorem utf8_cons
    (point : CodePoint)
    (text : List CodePoint) :
    utf8 (point :: text) = codePointBytes point.val ++ utf8 text :=
  List.flatMap_cons

theorem string_source
    (value : List CodePoint)
    (rest : Bytes) :
    (Piece.string value).source ++ rest =
      0x22 :: (value.flatMap escapeCodePoint ++ 0x22 :: rest) := by
  rw [Piece.source, List.cons_append, List.append_assoc, List.singleton_append]

/-- A readable string is read back, -/
theorem manifestStringAt_written
    {value : List CodePoint}
    (readable : ∀ point ∈ value, Readable point)
    (key : String)
    (rest : Bytes) :
    manifestStringAt key ((Piece.string value).source ++ rest) = .ok (utf8 value) := by
  rw [string_source, manifestStringAt]
  induction value with
  | nil => rfl
  | cons point value ih =>
    rw [List.forall_mem_cons] at readable
    rw [List.flatMap_cons, List.append_assoc, manifestStringBody_escape readable.1,
      ih readable.2, utf8_cons, codePointBytes_readable readable.1]
    rfl

/-- and only a readable one. -/
theorem readable_of_read
    {key : String}
    {value : List CodePoint}
    {rest text : Bytes}
    (read : manifestStringAt key ((Piece.string value).source ++ rest) = .ok text) :
    ∀ point ∈ value, Readable point := by
  rw [string_source, manifestStringAt] at read
  induction value generalizing text with
  | nil => exact nofun
  | cons point value ih =>
    rw [List.flatMap_cons, List.append_assoc] at read
    by_cases readable : Readable point
    · rw [manifestStringBody_escape readable] at read
      obtain ⟨tail, read, -⟩ := map_cons_ok read
      exact List.forall_mem_cons.mpr ⟨readable, ih read⟩
    · obtain ⟨error, thrown⟩ := manifestStringBody_unreadable readable key
        (value.flatMap escapeCodePoint ++ 0x22 :: rest)
      rw [thrown] at read
      cases read

/-- A number below `2 ^ 64` is read back. -/
theorem manifestUnsignedAt_written
    {value : Nat}
    (small : value < 2 ^ 64)
    (key : String)
    {byte : UInt8}
    (ends : byte = 0x2c ∨ byte = 0x0a)
    (rest : Bytes) :
    manifestUnsignedAt key ((Piece.number value).source ++ byte :: rest) = .ok value := by
  have stops : isDigit byte = false := by
    rcases ends with rfl | rfl <;> rfl
  have digits : (decimal value ++ byte :: rest).takeWhile isDigit = decimal value := by
    rw [List.takeWhile_append_of_pos (Json.decimal_digits value),
      List.takeWhile_cons_of_neg (by simp [stops]), List.append_nil]
  obtain ⟨first, others, shape, -⟩ := Json.decimal_head value
  have nonempty : decimal value ≠ [] := by
    rw [shape]
    exact List.cons_ne_nil first others
  rw [manifestUnsignedAt, Piece.source, digits, if_neg nonempty, Json.digitsValue_decimal,
    if_neg (Nat.not_le.mpr small)]

end Aeon.Manifest
