import Aeon.ManifestRoundTrip
import Aeon.PythonJsonSource

namespace Aeon.Manifest

open Artifact (LoaderError expertMagic)
open Json (PythonValue dumps)

/-!
# Which written manifests are accepted

A model type that spells the name of a field, whole or behind a quote at its end, draws
the search for that field to the weight backend.  Apart from that and from the escapes
the reader does not know, a written manifest is read back.
-/

/-! ## Collisions -/

theorem mem_of_collides
    {name : Bytes}
    {value : List CodePoint}
    (collides : pythonEscaping.Collides name value)
    {byte : UInt8}
    (listed : byte ∈ name) :
    CodePoint.ofByte byte ∈ value := by
  have spelled : CodePoint.ofByte byte ∈ pythonEscaping.spell name :=
    List.mem_map.mpr ⟨byte, listed, rfl⟩
  rcases collides with rfl | suffix
  · exact spelled
  · exact suffix.subset (List.mem_cons_of_mem _ spelled)

theorem underscore_notMem (modelType : List CodePoint) :
    CodePoint.ofByte 0x5f ∉ modelFamily modelType := by
  intro listed
  have kept := List.mem_takeWhile_imp listed
  exact absurd kept (by decide)

theorem family_apart
    {name : Bytes}
    (underscore : 0x5f ∈ name)
    (modelType : List CodePoint) :
    ¬ pythonEscaping.Collides name (modelFamily modelType) :=
  fun collides => underscore_notMem modelType (mem_of_collides collides underscore)

/-- The fields whose search a model type can draw away. -/
def Field.confusable : Field → Bool
  | .text .denseFilename | .text .expertsFilename | .text .indexFilename => true
  | .text _ | .number .manifestVersion => false
  | .number _ => true

section Written

variable {modelType : List CodePoint}
variable {catalog : Catalog}

theorem behind_colliding
    {key : String}
    (plain : pythonEscaping.Plain (bytes key))
    (comma : 0x2c ∉ bytes key)
    {front rest : List Piece}
    {value : List CodePoint}
    (whole : manifestPieces modelType catalog = front ++ .string value :: rest)
    (passed : clearPieces key front = true)
    (apart : ∀ value ∈ stringsOf front, ¬ pythonEscaping.Collides (bytes key) value)
    (collides : pythonEscaping.Collides (bytes key) value) :
    Bytes.behind (Bytes.quoted (bytes key)) (writtenSource modelType catalog) =
      some (sources rest) := by
  have split : writtenSource modelType catalog =
      sources front ++ 0x22 :: (pythonEscaping.text value ++ 0x22 :: sources rest) := by
    rw [writtenSource, whole, sources_append]
    exact congrArg (sources front ++ ·) (string_source value (sources rest))
  rw [split, behind_pieces plain comma passed apart]
  exact Escaping.behind_collision plain collides (sources rest)

theorem start_behind_gap
    {text gap rest : Bytes}
    {key : String}
    {value : List CodePoint}
    (lacking : 0x3a ∉ gap)
    (found : Bytes.behind (Bytes.quoted (bytes key)) text =
      some (gap ++ 0x3a :: 0x20 :: ((Piece.string value).source ++ rest))) :
    manifestValueStart text key = .ok ((Piece.string value).source ++ rest) := by
  refine manifestValueStart_ok_iff.mpr ⟨gap, [0x20], found, lacking, ?_, 0x22, _, rfl, rfl⟩
  intro byte listed
  rw [List.mem_singleton.mp listed]
  rfl

/-- The search for the architecture ends there, whatever the family is. -/
theorem architecture_start :
    ∃ byte rest, (byte = 0x2c ∨ byte = 0x0a) ∧
      manifestValueStart (writtenSource modelType catalog) "architecture" =
        .ok ((Piece.string modelType).source ++ byte :: rest) := by
  by_cases collides :
      pythonEscaping.Collides (bytes "architecture") (modelFamily modelType)
  · have found := @behind_colliding modelType catalog "architecture"
      (key_plain (.text .architecture)) (key_comma (.text .architecture))
      ((manifestPieces modelType catalog).take 3) ((manifestPieces modelType catalog).drop 4)
      (modelFamily modelType) rfl rfl nofun collides
    obtain ⟨rest, layout⟩ : ∃ rest,
        sources ((manifestPieces modelType catalog).drop 4) =
          bytes ",\n  \"architecture\"" ++
            0x3a :: 0x20 :: ((Piece.string modelType).source ++ 0x2c :: rest) :=
      ⟨_, rfl⟩
    rw [layout] at found
    exact ⟨0x2c, rest, Or.inl rfl, start_behind_gap (by decide) found⟩
  · refine @own_start modelType catalog (.text .architecture) ?_
    intro value listed
    rw [List.mem_singleton.mp listed]
    exact collides

section

variable
    {field : Field}
    (late : 8 ≤ field.place)

include late

theorem drawn_start
    (collides : pythonEscaping.Collides (bytes field.key) modelType) :
    ∃ rest, manifestValueStart (writtenSource modelType catalog) field.key =
      .ok ((Piece.string (writtenText modelType .weightBackend)).source ++ 0x2c :: rest) := by
  have passed : clearPieces field.key ((manifestPieces modelType catalog).take 6) = true := by
    rcases field with field | field <;> cases field <;>
      first
        | rfl
        | exact absurd late (by decide)
  have underscore : 0x5f ∈ bytes field.key := by
    rcases field with field | field <;> cases field <;>
      first
        | decide
        | exact absurd late (by decide)
  have found := @behind_colliding modelType catalog field.key
    (key_plain field) (key_comma field) ((manifestPieces modelType catalog).take 6)
    ((manifestPieces modelType catalog).drop 7) modelType rfl passed
    (by
      intro value listed
      rw [List.mem_singleton.mp listed]
      exact family_apart underscore modelType)
    collides
  obtain ⟨rest, layout⟩ : ∃ rest,
      sources ((manifestPieces modelType catalog).drop 7) =
        bytes ",\n  \"weight_backend\"" ++ 0x3a :: 0x20 ::
          ((Piece.string (writtenText modelType .weightBackend)).source ++ 0x2c :: rest) :=
    ⟨_, rfl⟩
  rw [layout] at found
  exact ⟨rest, start_behind_gap (by decide) found⟩

theorem stringsOf_inFront :
    stringsOf (inFront modelType catalog field) = [modelFamily modelType, modelType] := by
  rcases field with field | field <;> cases field <;>
    first
      | rfl
      | exact absurd late (by decide)

/-- A search behind the architecture that nothing draws away. -/
theorem late_start
    (apart : ¬ pythonEscaping.Collides (bytes field.key) modelType) :
    ∃ byte rest, (byte = 0x2c ∨ byte = 0x0a) ∧
      manifestValueStart (writtenSource modelType catalog) field.key =
        .ok ((writtenPiece modelType catalog field).source ++ byte :: rest) := by
  have underscore : 0x5f ∈ bytes field.key := by
    rcases field with field | field <;> cases field <;>
      first
        | decide
        | exact absurd late (by decide)
  refine own_start fun value listed => ?_
  rw [stringsOf_inFront late, List.mem_cons, List.mem_singleton] at listed
  rcases listed with rfl | rfl
  · exact family_apart underscore modelType
  · exact apart

end

theorem written_start
    {field : Field}
    (apart : field.confusable = true →
      ¬ pythonEscaping.Collides (bytes field.key) modelType) :
    ∃ byte rest, (byte = 0x2c ∨ byte = 0x0a) ∧
      manifestValueStart (writtenSource modelType catalog) field.key =
        .ok ((writtenPiece modelType catalog field).source ++ byte :: rest) := by
  by_cases late : 8 ≤ field.place
  · by_cases collides : pythonEscaping.Collides (bytes field.key) modelType
    · have same : writtenPiece modelType catalog field =
          .string (writtenText modelType .weightBackend) := by
        rcases field with field | field
        · cases field with
          | weightBackend => rfl
          | expertFormat => rfl
          | modelFamily => exact absurd late (by decide)
          | architecture => exact absurd late (by decide)
          | denseFilename => exact absurd collides (apart rfl)
          | expertsFilename => exact absurd collides (apart rfl)
          | indexFilename => exact absurd collides (apart rfl)
        · cases field with
          | manifestVersion => exact absurd late (by decide)
          | denseFormatVersion => exact absurd collides (apart rfl)
          | expertFormatVersion => exact absurd collides (apart rfl)
          | expertSectorSize => exact absurd collides (apart rfl)
          | expertPayloadBytes => exact absurd collides (apart rfl)
          | denseFileBytes => exact absurd collides (apart rfl)
          | numLayers => exact absurd collides (apart rfl)
          | expertsPerLayer => exact absurd collides (apart rfl)
      obtain ⟨rest, start⟩ := @drawn_start modelType catalog field late collides
      exact ⟨0x2c, rest, Or.inl rfl, same ▸ start⟩
    · exact late_start late collides
  · rcases field with field | field
    · cases field with
      | modelFamily => exact @own_start modelType catalog (.text .modelFamily) nofun
      | architecture => exact architecture_start
      | _ => exact absurd (by decide) late
    · cases field with
      | manifestVersion => exact @own_start modelType catalog (.number .manifestVersion) nofun
      | _ => exact absurd (by decide) late

/-! ## Reading a written manifest -/

theorem Readable.of_plain
    {byte : UInt8}
    (plain : isPlain byte = true) :
    Readable (.ofByte byte) := by
  simp only [isPlain, Bool.and_eq_true, decide_eq_true_eq] at plain
  exact Or.inl plain.1.1

theorem plain_readable
    {name : Bytes}
    (plain : ∀ byte ∈ name, isPlain byte = true) :
    (∀ point ∈ name.map CodePoint.ofByte, Readable point) ∧
      name = utf8 (name.map CodePoint.ofByte) := by
  induction name with
  | nil => exact ⟨nofun, rfl⟩
  | cons byte name ih =>
    rw [List.forall_mem_cons] at plain
    obtain ⟨readable, back⟩ := ih plain.2
    have first : Readable (.ofByte byte) := Readable.of_plain plain.1
    rw [List.map_cons, List.forall_mem_cons, utf8_cons, codePointBytes_readable first,
      ← back]
    refine ⟨⟨first, readable⟩, ?_⟩
    rw [CodePoint.ofByte, UInt8.ofNat_toNat, List.singleton_append]

theorem textValue_written (field : TextField) :
    ((∀ point ∈ modelType, Readable point) →
      ∀ point ∈ writtenText modelType field, Readable point) ∧
    (writtenManifest modelType catalog).textValue field =
      utf8 (writtenText modelType field) := by
  have own
      {name : Bytes}
      (plain : ∀ byte ∈ name, isPlain byte = true) :
      ((∀ point ∈ modelType, Readable point) →
        ∀ point ∈ name.map CodePoint.ofByte, Readable point) ∧
      name = utf8 (name.map CodePoint.ofByte) :=
    ⟨fun _ => (plain_readable plain).1, (plain_readable plain).2⟩
  cases field with
  | modelFamily =>
    exact ⟨fun readable point listed => readable point ((List.takeWhile_subset _) listed), rfl⟩
  | architecture => exact ⟨fun readable => readable, rfl⟩
  | weightBackend | expertFormat =>
    exact @own (bytes "swizzled_w4a16") (by decide)
  | denseFilename => exact @own (bytes "model_dense.aeon") (by decide)
  | expertsFilename => exact @own (bytes "model_experts_swizzled.aeon") (by decide)
  | indexFilename => exact @own (bytes "model_experts_swizzled.index") (by decide)

theorem numberValue_lt (manifest : ModelManifest) (field : NumberField) :
    manifest.numberValue field < 2 ^ 64 := by
  have narrow (value : UInt32) : value.toNat < 2 ^ 64 :=
    Nat.lt_trans value.toNat_lt (by decide)
  cases field with
  | expertPayloadBytes => exact UInt64.toNat_lt _
  | denseFileBytes => exact UInt64.toNat_lt _
  | _ => exact narrow _

/-- The model type draws no search away from a field it does not belong to. -/
def Unconfused (modelType : List CodePoint) : Prop :=
  ∀ field : Field, field.confusable = true →
    ¬ pythonEscaping.Collides (bytes field.key) modelType

theorem manifestString_written
    (readable : ∀ point ∈ modelType, Readable point)
    (unconfused : Unconfused modelType)
    (field : TextField) :
    manifestString (writtenSource modelType catalog) field.key =
      .ok ((writtenManifest modelType catalog).textValue field) := by
  obtain ⟨byte, rest, -, start⟩ :=
    @written_start modelType catalog (.text field) (unconfused (.text field))
  rw [manifestString]
  rw [Field.key] at start
  rw [start, ok_bind, writtenPiece,
    manifestStringAt_written ((@textValue_written modelType catalog field).1 readable),
    (@textValue_written modelType catalog field).2]

theorem manifestUnsigned_written
    (unconfused : Unconfused modelType)
    (field : NumberField) :
    manifestUnsigned (writtenSource modelType catalog) field.key =
      .ok ((writtenManifest modelType catalog).numberValue field) := by
  obtain ⟨byte, rest, ends, start⟩ :=
    @written_start modelType catalog (.number field) (unconfused (.number field))
  rw [manifestUnsigned]
  rw [Field.key] at start
  rw [start, ok_bind, writtenPiece,
    manifestUnsignedAt_written (numberValue_lt _ field) _ ends]

theorem loadFromJson_written
    (readable : ∀ point ∈ modelType, Readable point)
    (unconfused : Unconfused modelType)
    (valid : (writtenManifest modelType catalog).validate = .ok ()) :
    loadFromJson (writtenSource modelType catalog) =
      .ok (writtenManifest modelType catalog) := by
  exact loadFromJson_of_scanned (manifestString_written readable unconfused)
    (manifestUnsigned_written unconfused) rfl valid

section

variable
    (loaded : loadFromJson (writtenSource modelType catalog) =
      .ok (writtenManifest modelType catalog))

include loaded

/-- A model type whose characters were read back, where its manifest was loaded. -/
theorem readable_of_loaded :
    ∀ point ∈ modelType, Readable point := by
  obtain ⟨byte, rest, -, start⟩ := @architecture_start modelType catalog
  exact readable_of_read (scanned_at_own start ((loadFromJson_ok loaded).strings .architecture))

theorem unconfused_of_loaded :
    Unconfused modelType := by
  intro field confusable collides
  have scanned := loadFromJson_ok loaded
  have late : 8 ≤ field.place := by
    rcases field with field | field <;> cases field <;>
      first
        | decide
        | cases confusable
  obtain ⟨rest, start⟩ := @drawn_start modelType catalog field late collides
  rcases field with field | field
  · have read := scanned_at_own start (scanned.strings field)
    -- The three file names are not the name of the backend.
    have backend : manifestStringAt field.key
        ((Piece.string (writtenText modelType .weightBackend)).source ++ 0x2c :: rest) =
          .ok (bytes "swizzled_w4a16") :=
      rfl
    rw [backend, Except.ok.injEq] at read
    cases field with
    | denseFilename =>
      have other : bytes "swizzled_w4a16" ≠ bytes "model_dense.aeon" := by decide
      exact absurd read other
    | expertsFilename =>
      have other : bytes "swizzled_w4a16" ≠ bytes "model_experts_swizzled.aeon" := by decide
      exact absurd read other
    | indexFilename =>
      have other : bytes "swizzled_w4a16" ≠ bytes "model_experts_swizzled.index" := by decide
      exact absurd read other
    | _ => cases confusable
  · obtain ⟨value, number, -⟩ := scanned.numbers field
    have read := scanned_at_own start number
    cases read

end

theorem loadFromJson_written_iff :
    loadFromJson (writtenSource modelType catalog) =
        .ok (writtenManifest modelType catalog) ↔
      (∀ point ∈ modelType, Readable point) ∧ Unconfused modelType ∧
        (writtenManifest modelType catalog).validate = .ok () :=
  ⟨fun loaded => ⟨readable_of_loaded loaded, unconfused_of_loaded loaded,
    (loadFromJson_ok loaded).valid⟩,
    fun conditions => loadFromJson_written conditions.1 conditions.2.1 conditions.2.2⟩

end Written

/-! ## The reader and the document -/

/--
A manifest that is loaded is faithful to its document if and only if every search ends at
its own member's colon and every number is plain and fits, and a manifest of the converter
is read back if and only if its model type is readable and draws no search away, and the
written values are valid.
-/
theorem loadFromJson_agrees_iff
    (text : Bytes)
    (root : Json.JsonValue)
    (manifest : ModelManifest)
    (modelType : List CodePoint)
    (index : Bytes)
    (denseFileBytes : UInt64) :
    (HoldsManifest text root → loadFromJson text = .ok manifest →
      (Faithful text root manifest ↔
        (∀ field, OwnColon text field) ∧ ∀ field, PlainNumber text field)) ∧
    (writeModelManifest modelType index denseFileBytes = some text →
      ∃ catalog, indexCatalog index denseFileBytes = some catalog ∧
        (loadFromJson text = .ok (writtenManifest modelType catalog) ↔
          (∀ point ∈ modelType, Readable point) ∧ Unconfused modelType ∧
            (writtenManifest modelType catalog).validate = .ok ())) := by
  refine ⟨fun holds loaded => faithful_iff_ownColon holds loaded, fun written => ?_⟩
  rw [writeModelManifest] at written
  split at written
  · cases written
  · obtain ⟨catalog, header, rfl⟩ := Option.map_eq_some_iff.mp written
    exact ⟨catalog, header, loadFromJson_written_iff⟩

/-- A manifest of one member of each kind, with a number of layers. -/
def sampleManifest (layers : Nat) : PythonValue :=
  .dict
    [("manifest_version".toList, .int 1),
      ("model_family".toList, .str "deepseek".toList),
      ("architecture".toList, .str "deepseek_v4".toList),
      ("weight_backend".toList, .str "swizzled_w4a16".toList),
      ("dense_file_bytes".toList, .int 4096),
      ("num_layers".toList, .int layers),
      ("experts_per_layer".toList, .int 256),
      ("artifact".toList, .dict
        [("dense_filename".toList, .str "model_dense.aeon".toList),
          ("experts_filename".toList, .str "model_experts_swizzled.aeon".toList),
          ("index_filename".toList, .str "model_experts_swizzled.index".toList),
          ("dense_format_version".toList, .int 1),
          ("expert_format".toList, .str "swizzled_w4a16".toList),
          ("expert_format_version".toList, .int 2),
          ("expert_sector_size".toList, .int 4096),
          ("expert_payload_bytes".toList, .int 14155776)])]

/-- The sample as it is loaded with 43 layers. -/
def sampleLoaded : ModelManifest where
  manifestVersion := 1
  modelFamily := bytes "deepseek"
  architecture := bytes "deepseek_v4"
  weightBackend := bytes "swizzled_w4a16"
  artifact :=
    { denseFilename := bytes "model_dense.aeon"
      expertsFilename := bytes "model_experts_swizzled.aeon"
      indexFilename := bytes "model_experts_swizzled.index"
      expectedDenseVersion := 1
      expertFormatKind := .swizzledW4a16
      expectedExpertVersion := 2
      expertSectorSize := 4096
      expectedExpertPayloadBytes := 14155776 }
  denseFileBytes := 4096
  numLayers := 43
  expertsPerLayer := 256

theorem int_exact
    {value : Nat}
    (small : value < 2 ^ 53) :
    (PythonValue.int value).Exact :=
  small

section

variable
    {layers : Nat}
    (small : layers < 2 ^ 53)

include small

theorem sampleManifest_exact :
    (sampleManifest layers).Exact := by
  refine ⟨⟨int_exact (by decide), trivial, trivial, trivial, int_exact (by decide),
    int_exact small, int_exact (by decide),
    ⟨⟨trivial, trivial, trivial, int_exact (by decide), trivial, int_exact (by decide),
      int_exact (by decide), int_exact (by decide), trivial⟩, ?_⟩, trivial⟩, ?_⟩
  · decide
  · have distinct : (["manifest_version", "model_family", "architecture", "weight_backend",
        "dense_file_bytes", "num_layers", "experts_per_layer",
        "artifact"].map String.toList).Nodup := by
      decide
    exact distinct

theorem sampleManifest_holds :
    HoldsManifest (dumps 0 (sampleManifest layers)) (sampleManifest layers).toJson := by
  refine ⟨Json.parse_dumps (sampleManifest_exact small), ⟨_, rfl⟩, ⟨_, rfl⟩, ?_, ?_⟩
  · intro field
    cases field <;> exact ⟨_, rfl⟩
  · intro field
    cases field <;> exact ⟨_, rfl⟩

end

/-- The index header of 43 layers of 256 experts. -/
def sampleIndex : Bytes :=
  expertMagic ++ [2, 0, 0, 0, 43, 0, 0, 0, 0, 1, 0, 0, 0, 0, 0xd8, 0, 0, 0, 0, 0]

/-- The catalog in that header. -/
def sampleCatalog : Catalog where
  expertVersion := 2
  numLayers := 43
  expertsPerLayer := 256
  expertPayloadBytes := 14155776
  denseFileBytes := 4096

theorem loadFromJson_agrees_iff_deepseek :
    (Faithful (dumps 0 (sampleManifest 43)) (sampleManifest 43).toJson sampleLoaded ↔
      (∀ field, OwnColon (dumps 0 (sampleManifest 43)) field) ∧
        ∀ field, PlainNumber (dumps 0 (sampleManifest 43)) field) ∧
    ∃ catalog, indexCatalog sampleIndex 4096 = some catalog ∧
      (loadFromJson (sources (manifestPieces ((bytes "deepseek_v4").map .ofByte)
          sampleCatalog)) =
          .ok (writtenManifest ((bytes "deepseek_v4").map .ofByte) catalog) ↔
        (∀ point ∈ (bytes "deepseek_v4").map CodePoint.ofByte, Readable point) ∧
          Unconfused ((bytes "deepseek_v4").map .ofByte) ∧
          (writtenManifest ((bytes "deepseek_v4").map .ofByte) catalog).validate = .ok ()) :=
  ⟨(loadFromJson_agrees_iff _ _ _ [] [] 0).1 (sampleManifest_holds (by decide))
      (by decide +kernel),
    (loadFromJson_agrees_iff _ .null sampleLoaded ((bytes "deepseek_v4").map .ofByte)
      sampleIndex 4096).2 rfl⟩

/-- A manifest of `2 ^ 32 + 43` layers is loaded as one of 43. -/
theorem reducedLayers_not_faithful :
    ¬ ((∀ text root manifest, HoldsManifest text root → loadFromJson text = .ok manifest →
        Faithful text root manifest) ∧
      (∀ modelType index denseFileBytes text,
        writeModelManifest modelType index denseFileBytes = some text →
          ∃ catalog, indexCatalog index denseFileBytes = some catalog ∧
            loadFromJson text = .ok (writtenManifest modelType catalog))) := by
  rintro ⟨agrees, -⟩
  have faithful := agrees (dumps 0 (sampleManifest 4294967339)) _ sampleLoaded
    (sampleManifest_holds (by decide)) (by decide +kernel)
  obtain ⟨offset, literal, -, -, scanned, -⟩ := faithful.numbers .numLayers
  have written : manifestUnsigned (dumps 0 (sampleManifest 4294967339)) "num_layers" =
      .ok 4294967339 := by
    decide +kernel
  rw [NumberField.key, written, Except.ok.injEq] at scanned
  exact absurd scanned (by decide)

end Aeon.Manifest
