import Aeon.ManifestAgreement

namespace Aeon.Manifest

open Artifact (LoaderError expertMagic sectorSize)
open Json (decimal unicodeEscape codePointBytes)
open LittleEndian (readAt)

/-!
# The manifest writer

`write_model_manifest` of the converter.  It dumps the manifest with `json.dump`, in
ASCII and with an indentation of two, from the model type of the source checkpoint, the
header of the expert index and the size of the dense file.
-/

/-- A code point of a Python string; lone surrogates are among them. -/
abbrev CodePoint := Fin 0x110000

/-- One character of `py_encode_basestring_ascii`. -/
def escapeCodePoint (point : CodePoint) : Bytes :=
  let value := point.val
  if value = 0x5c then [0x5c, 0x5c]
  else if value = 0x22 then [0x5c, 0x22]
  else if value = 0x08 then bytes "\\b"
  else if value = 0x0c then bytes "\\f"
  else if value = 0x0a then bytes "\\n"
  else if value = 0x0d then bytes "\\r"
  else if value = 0x09 then bytes "\\t"
  else if 0x20 ≤ value ∧ value ≤ 0x7e then [UInt8.ofNat value]
  else if value < 0x10000 then unicodeEscape value
  else
    unicodeEscape (0xd800 + (value - 0x10000) / 0x400) ++
      unicodeEscape (0xdc00 + (value - 0x10000) % 0x400)

/-- `model_type.split("_", 1)[0]`. -/
def modelFamily (modelType : List CodePoint) : List CodePoint :=
  modelType.takeWhile (· != 0x5f)

/-- A part of the dumped text. -/
inductive Piece where
  | fixed (content : Bytes)
  | string (value : List CodePoint)
  | number (value : Nat)

/-- The bytes of a part. -/
def Piece.source : Piece → Bytes
  | fixed content => content
  | string value => 0x22 :: (value.flatMap escapeCodePoint ++ [0x22])
  | number value => decimal value

/-- The bytes of the parts in order. -/
def sources (pieces : List Piece) : Bytes :=
  pieces.flatMap Piece.source

/-- A name and what stands between it and its value. -/
def named (name : String) : Bytes :=
  Bytes.quoted (bytes name) ++ bytes ": "

/-- What `write_model_manifest` knows of the artifact. -/
structure Catalog where
  expertVersion : UInt32
  numLayers : UInt32
  expertsPerLayer : UInt32
  expertPayloadBytes : UInt64
  denseFileBytes : UInt64
  deriving Repr, DecidableEq

/-- The text that `json.dump(manifest, indent=2)` writes, and the last line break. -/
def manifestPieces
    (modelType : List CodePoint)
    (catalog : Catalog) : List Piece :=
  [.fixed (bytes "\x7b\n  "),
    .fixed (named "manifest_version" ++ bytes "1,\n  "),
    .fixed (named "model_family"), .string (modelFamily modelType), .fixed (bytes ",\n  "),
    .fixed (named "architecture"), .string modelType, .fixed (bytes ",\n  "),
    .fixed (named "weight_backend" ++ bytes "\"swizzled_w4a16\",\n  "),
    .fixed (named "dense_file_bytes"), .number catalog.denseFileBytes.toNat,
    .fixed (bytes ",\n  "),
    .fixed (named "num_layers"), .number catalog.numLayers.toNat, .fixed (bytes ",\n  "),
    .fixed (named "experts_per_layer"), .number catalog.expertsPerLayer.toNat,
    .fixed (bytes ",\n  "),
    .fixed (named "artifact" ++ bytes "\x7b\n    "),
    .fixed (named "dense_filename" ++ bytes "\"model_dense.aeon\",\n    "),
    .fixed (named "experts_filename" ++ bytes "\"model_experts_swizzled.aeon\",\n    "),
    .fixed (named "index_filename" ++ bytes "\"model_experts_swizzled.index\",\n    "),
    .fixed (named "dense_format_version" ++ bytes "1,\n    "),
    .fixed (named "expert_format" ++ bytes "\"swizzled_w4a16\",\n    "),
    .fixed (named "expert_format_version"), .number catalog.expertVersion.toNat,
    .fixed (bytes ",\n    "),
    .fixed (named "expert_sector_size" ++ bytes "4096,\n    "),
    .fixed (named "expert_payload_bytes"), .number catalog.expertPayloadBytes.toNat,
    .fixed (bytes "\n  \x7d\n\x7d\n")]

/-- The catalog in the header of the expert index; another header raises. -/
def indexCatalog
    (index : Bytes)
    (denseFileBytes : UInt64) : Option Catalog :=
  let header := index.take 32
  if header.length ≠ 32 then none
  else if header.take 12 ≠ expertMagic then none
  else
    some
      { expertVersion := .ofNat (readAt 4 header 12)
        numLayers := .ofNat (readAt 4 header 16)
        expertsPerLayer := .ofNat (readAt 4 header 20)
        expertPayloadBytes := .ofNat (readAt 8 header 24)
        denseFileBytes := denseFileBytes }

/-- `write_model_manifest`: the text of the manifest. -/
def writeModelManifest
    (modelType : List CodePoint)
    (index : Bytes)
    (denseFileBytes : UInt64) : Option Bytes :=
  if modelType = [] then none
  else (indexCatalog index denseFileBytes).map fun catalog =>
    sources (manifestPieces modelType catalog)

/-- The UTF-8 of a Python string. -/
def utf8 (text : List CodePoint) : Bytes :=
  text.flatMap fun point => codePointBytes point.val

/-- The values of the manifest that is written. -/
def writtenManifest
    (modelType : List CodePoint)
    (catalog : Catalog) : ModelManifest where
  manifestVersion := 1
  modelFamily := utf8 (modelFamily modelType)
  architecture := utf8 modelType
  weightBackend := bytes "swizzled_w4a16"
  artifact :=
    { denseFilename := bytes "model_dense.aeon"
      expertsFilename := bytes "model_experts_swizzled.aeon"
      indexFilename := bytes "model_experts_swizzled.index"
      expectedDenseVersion := 1
      expertFormatKind := .swizzledW4a16
      expectedExpertVersion := catalog.expertVersion
      expertSectorSize := 4096
      expectedExpertPayloadBytes := catalog.expertPayloadBytes }
  denseFileBytes := catalog.denseFileBytes
  numLayers := catalog.numLayers
  expertsPerLayer := catalog.expertsPerLayer

/-! ## Searching what was written -/

theorem hexDigit_ne_quote : ∀ digit < 16, Json.hexDigit digit ≠ 0x22 := by
  decide

/-- An escape starts with a backslash and holds no quote. -/
theorem unicodeEscape_shape
    {unit : Nat}
    (small : unit < 0x10000) :
    ∃ rest, unicodeEscape unit = 0x5c :: rest ∧ 0x22 ∉ rest := by
  refine ⟨0x75 :: [Json.hexDigit (unit / 0x1000), Json.hexDigit (unit / 0x100 % 0x10),
    Json.hexDigit (unit / 0x10 % 0x10), Json.hexDigit (unit % 0x10)], ?_, ?_⟩
  · rw [unicodeEscape, Json.bytes_unicode]
    rfl
  · simp only [List.mem_cons, List.not_mem_nil, or_false, not_or]
    refine ⟨by decide, ?_, ?_, ?_, ?_⟩
    all_goals exact (hexDigit_ne_quote _ (by omega)).symm

/-- A byte that Python writes as it is. -/
def isPlain (byte : UInt8) : Bool :=
  decide (0x20 ≤ byte) && decide (byte ≤ 0x7e) && byte != 0x22 && byte != 0x5c

/-- The code point of a byte. -/
def CodePoint.ofByte (byte : UInt8) : CodePoint :=
  ⟨byte.toNat, Nat.lt_trans byte.toNat_lt (by decide)⟩

theorem escapeCodePoint_low : ∀ value : Fin 256,
    (isPlain (UInt8.ofNat value) = true →
      escapeCodePoint ⟨value, Nat.lt_trans value.2 (by decide)⟩ = [UInt8.ofNat value]) := by
  decide +kernel

/-- A plain byte is written as it is. -/
theorem escapeCodePoint_plain
    (byte : UInt8)
    (plain : isPlain byte = true) :
    escapeCodePoint (.ofByte byte) = [byte] := by
  have low := escapeCodePoint_low ⟨byte.toNat, byte.toNat_lt⟩
  rw [UInt8.ofNat_toNat] at low
  exact low plain

theorem escapeCodePoint_ascii : ∀ value : Fin 0x7f,
    isPlain (UInt8.ofNat value) = true ∨ value.val = 0x22 ∨
      ((escapeCodePoint ⟨value, Nat.lt_trans value.2 (by decide)⟩).head? = some 0x5c ∧
        0x22 ∉ (escapeCodePoint ⟨value, Nat.lt_trans value.2 (by decide)⟩).tail) := by
  decide +kernel

theorem escapeCodePoint_high
    {point : CodePoint}
    (high : 0x7f ≤ point.val) :
    escapeCodePoint point =
      if point.val < 0x10000 then unicodeEscape point.val
      else
        unicodeEscape (0xd800 + (point.val - 0x10000) / 0x400) ++
          unicodeEscape (0xdc00 + (point.val - 0x10000) % 0x400) := by
  have apart (value : Nat) (low : value < 0x7f) : point.val ≠ value := by omega
  have outside : ¬ (0x20 ≤ point.val ∧ point.val ≤ 0x7e) := by omega
  rw [escapeCodePoint]
  simp only [apart 0x5c (by decide), apart 0x22 (by decide), apart 0x08 (by decide),
    apart 0x0c (by decide), apart 0x0a (by decide), apart 0x0d (by decide),
    apart 0x09 (by decide), outside, if_false]

/-- A code point is plain, a quote, or an escape without one. -/
theorem escapeCodePoint_other (point : CodePoint) :
    (∃ byte, isPlain byte = true ∧ point = .ofByte byte) ∨ point = 0x22 ∨
      ∃ rest, escapeCodePoint point = 0x5c :: rest ∧ 0x22 ∉ rest := by
  have bound := point.2
  rcases Nat.lt_or_ge point.val 0x7f with ascii | high
  · rcases escapeCodePoint_ascii ⟨point.val, ascii⟩ with plain | quote | ⟨backslash, lacking⟩
    · refine Or.inl ⟨UInt8.ofNat point.val, plain, Fin.ext ?_⟩
      exact (UInt8.toNat_ofNat_of_lt' (Nat.lt_trans ascii (by decide))).symm
    · exact Or.inr (Or.inl (Fin.ext quote))
    · obtain ⟨rest, escape⟩ := List.head?_eq_some_iff.mp backslash
      rw [escape] at lacking
      exact Or.inr (Or.inr ⟨rest, escape, lacking⟩)
  · refine Or.inr (Or.inr ?_)
    rw [escapeCodePoint_high high]
    split
    · next basic => exact unicodeEscape_shape basic
    · obtain ⟨first, firstEscape, firstLacking⟩ :=
        @unicodeEscape_shape (0xd800 + (point.val - 0x10000) / 0x400) (by omega)
      obtain ⟨second, secondEscape, secondLacking⟩ :=
        @unicodeEscape_shape (0xdc00 + (point.val - 0x10000) % 0x400) (by omega)
      rw [firstEscape, secondEscape]
      refine ⟨first ++ 0x5c :: second, rfl, ?_⟩
      rw [List.mem_append, List.mem_cons, not_or, not_or]
      exact ⟨firstLacking, by decide, secondLacking⟩

/-- The escapes of `json.dump`. -/
def pythonEscaping : Escaping CodePoint where
  escape := escapeCodePoint
  plain := isPlain
  literal := .ofByte
  quote := 0x22
  plain_ne_quote := rfl
  plain_ne_backslash := rfl
  escape_literal := escapeCodePoint_plain
  escape_quote := rfl
  other := escapeCodePoint_other

end Aeon.Manifest
